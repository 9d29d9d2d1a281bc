import Zentra.OptimisticUpdates
import Zentra.SnapshotUndo

/-!
# What a rollback leaves

A rollback sets what the failed mutation found, so what later mutations did to the same list or
item is lost with it.  For one list or item, a run of mutations is a log of updates that are
undone by their snapshots.

* `handleError_restores` — a rollback restores what its mutation found;
* `rollback_restores` — over every run in which no hook has two mutations at a time.
-/

open SnapshotUndo StepTrace

namespace Zentra

namespace DataLayer

variable {T : Type} (ids : ItemIds T)

def ItemUpdate.updater : ItemUpdate T → Option T → Option T
  | .update updater, old => some (updater old)
  | .remove, _ => none

/-- What a mutation does to one query, if it changes it. -/
def Mutation.updaterAt (mutation : Mutation T) :
    (kind : QueryKind) → QueryKey → Option (Option (kind.Data T) → Option (kind.Data T))
  | .list, key => mutation.list.bind fun change =>
      if change.1 = key then some fun old => (change.2.updater ids old).or old else none
  | .item, key => mutation.item.bind fun change =>
      if change.1 = key then some change.2.updater else none

def Mutation.effect (mutation : Mutation T) (kind : QueryKind) (key : QueryKey)
    (old : Option (kind.Data T)) : Option (kind.Data T) :=
  match mutation.updaterAt ids kind key with
  | none => old
  | some updater => updater old

/-- Whether a mutation changes a query. -/
def Mutation.Touches (mutation : Mutation T) (kind : QueryKind) (key : QueryKey) : Prop :=
  (mutation.updaterAt ids kind key).isSome = true

instance (mutation : Mutation T) (kind : QueryKind) (key : QueryKey) :
    Decidable (mutation.Touches ids kind key) := inferInstanceAs (Decidable (_ = _))

/-- The removals of a mutation spare a query that it does not change itself. -/
def Mutation.Spares (mutation : Mutation T) (kind : QueryKind) (key : QueryKey) : Prop :=
  ∀ removed, mutation.item = some (removed, .remove) → removed <+: key →
    kind = .item ∧ removed = key

def Mutation.changeList (mutation : Mutation T) (client : QueryClient T) : QueryClient T :=
  match mutation.list with
  | none => client
  | some (queryKey, change) => updateQueryData .list queryKey (change.updater ids) client

def Mutation.changeItem (mutation : Mutation T) (client : QueryClient T) : QueryClient T :=
  match mutation.item with
  | none => client
  | some (queryKey, .update updater) =>
      updateQueryData .item queryKey (fun old => some (updater old)) client
  | some (queryKey, .remove) => removeQueries queryKey client

def Mutation.contexts (mutation : Mutation T) (before : QueryClient T) : HookRefs T where
  listContextRef := mutation.list.map fun change => createOptimisticContext .list change.1 before
  itemContextRef := mutation.item.map fun change => createOptimisticContext .item change.1 before

section Start

variable {ids} {mutation : Mutation T} {client : QueryClient T} {key queryKey : QueryKey}

theorem run_list (change : ListUpdate T) :
    change.run ids queryKey client = optimistically .list queryKey (change.updater ids) client := by
  cases change with
  | add item => rfl
  | remove entityId => rfl
  | update entityId updater => rfl

theorem mutationFn_fst {refs : HookRefs T} : (mutationFn ids mutation client refs).1 =
    mutation.changeItem (mutation.changeList ids client) := by
  obtain ⟨list, item, rollsBack⟩ := mutation
  unfold mutationFn Mutation.changeItem Mutation.changeList
  obtain _ | ⟨listKey, change⟩ := list
  · obtain _ | ⟨itemKey, _ | _⟩ := item <;> rfl
  · simp only [run_list]
    obtain _ | ⟨itemKey, _ | _⟩ := item <;> rfl

theorem updaterAt_list {change : ListUpdate T} (h : mutation.list = some (queryKey, change)) :
    mutation.updaterAt ids .list key =
      if queryKey = key then some fun old => (change.updater ids old).or old else none := by
  unfold Mutation.updaterAt
  rw [h]
  rfl

theorem updaterAt_item {change : ItemUpdate T} (h : mutation.item = some (queryKey, change)) :
    mutation.updaterAt ids .item key = if queryKey = key then some change.updater else none := by
  unfold Mutation.updaterAt
  rw [h]
  rfl

theorem effect_list {change : ListUpdate T} (h : mutation.list = some (queryKey, change))
    (old : Option (List T)) : mutation.effect ids .list key old =
      if queryKey = key then (change.updater ids old).or old else old := by
  unfold Mutation.effect
  rw [updaterAt_list h]
  by_cases hkey : queryKey = key
  · rw [if_pos hkey, if_pos hkey]
  · rw [if_neg hkey, if_neg hkey]

theorem effect_item {change : ItemUpdate T} (h : mutation.item = some (queryKey, change))
    (old : Option T) : mutation.effect ids .item key old =
      if queryKey = key then change.updater old else old := by
  unfold Mutation.effect
  rw [updaterAt_item h]
  by_cases hkey : queryKey = key
  · rw [if_pos hkey, if_pos hkey]
  · rw [if_neg hkey, if_neg hkey]

theorem effect_list_none (h : mutation.list = none) (old : Option (List T)) :
    mutation.effect ids .list key old = old := by
  unfold Mutation.effect Mutation.updaterAt
  rw [h]
  rfl

theorem effect_item_none (h : mutation.item = none) (old : Option T) :
    mutation.effect ids .item key old = old := by
  unfold Mutation.effect Mutation.updaterAt
  rw [h]
  rfl

theorem changeList_item : mutation.changeList ids client .item key = client .item key := by
  unfold Mutation.changeList
  obtain _ | ⟨listKey, change⟩ := mutation.list
  · rfl
  · exact updateQueryData_of_ne fun h => by cases h.1

theorem changeItem_list (hspares : mutation.Spares .list key) :
    mutation.changeItem client .list key = client .list key := by
  unfold Mutation.changeItem
  rcases hchange : mutation.item with _ | ⟨itemKey, updater | _⟩
  · rfl
  · exact updateQueryData_of_ne fun h => by cases h.1
  · exact if_neg fun hprefix => by cases (hspares itemKey hchange hprefix).1

theorem changeList_list :
    mutation.changeList ids client .list key = mutation.effect ids .list key (client .list key) := by
  unfold Mutation.changeList
  rcases hchange : mutation.list with _ | ⟨listKey, change⟩
  · exact (effect_list_none hchange _).symm
  · rw [effect_list hchange]
    by_cases hkey : listKey = key
    · subst hkey
      rw [if_pos rfl]
      exact updateQueryData_self
    · rw [if_neg hkey]
      exact updateQueryData_of_ne fun h => hkey h.2.symm

theorem changeItem_item (hspares : mutation.Spares .item key) :
    mutation.changeItem client .item key = mutation.effect ids .item key (client .item key) := by
  unfold Mutation.changeItem
  rcases hchange : mutation.item with _ | ⟨itemKey, updater | _⟩
  · exact (effect_item_none hchange _).symm
  · rw [effect_item hchange]
    by_cases hkey : itemKey = key
    · subst hkey
      rw [if_pos rfl]
      exact updateQueryData_self
    · rw [if_neg hkey]
      exact updateQueryData_of_ne fun h => hkey h.2.symm
  · rw [effect_item hchange]
    by_cases hkey : itemKey = key
    · subst hkey
      rw [if_pos rfl]
      exact if_pos (List.prefix_refl itemKey)
    · rw [if_neg hkey]
      exact if_neg fun hprefix => hkey (hspares itemKey hchange hprefix).2

/-- **The start of a mutation**, for one query. -/
theorem mutationFn_client {refs : HookRefs T} {kind : QueryKind}
    (hspares : mutation.Spares kind key) : (mutationFn ids mutation client refs).1 kind key =
      mutation.effect ids kind key (client kind key) := by
  rw [mutationFn_fst]
  cases kind with
  | list => exact (changeItem_list hspares).trans changeList_list
  | item => rw [@changeItem_item _ ids _ _ _ hspares, changeList_item]

theorem mutationFn_refs : (mutationFn ids mutation client {}).2 = mutation.contexts client := by
  obtain ⟨list, item, rollsBack⟩ := mutation
  unfold mutationFn Mutation.contexts
  obtain _ | ⟨listKey, change⟩ := list
  · obtain _ | ⟨itemKey, _ | _⟩ := item <;> rfl
  · simp only [run_list]
    have hitem : ∀ itemKey, (optimistically .list listKey (change.updater ids) client).1 .item
        itemKey = client .item itemKey := fun itemKey =>
      updateQueryData_of_ne fun h => by cases h.1
    obtain _ | ⟨itemKey, _ | _⟩ := item
    · rfl
    · exact congrArg (fun found => HookRefs.mk _ (some (OptimisticContext.mk itemKey found)))
        (hitem itemKey)
    · exact congrArg (fun found => HookRefs.mk _ (some (OptimisticContext.mk itemKey found)))
        (hitem itemKey)

end Start

/-- A rollback that removes the query of a key: nothing was found above it. -/
def OptimisticContext.Removes {kind : QueryKind} (context : OptimisticContext T kind)
    (key : QueryKey) : Prop := context.previousData = none ∧ context.queryKey <+: key

/-- The removals of a rollback spare a query that it does not restore itself. -/
structure HookRefs.Spares (refs : HookRefs T) (kind : QueryKind) (key : QueryKey) : Prop where
  list : ∀ context ∈ refs.listContextRef, context.Removes key →
    (kind = .list ∧ context.queryKey = key) ∨
      (kind = .item ∧ ∃ own ∈ refs.itemContextRef, own.queryKey = key)
  item : ∀ context ∈ refs.itemContextRef, context.Removes key →
    kind = .item ∧ context.queryKey = key

/-- What the refs remember of a query. -/
def HookRefs.found (refs : HookRefs T) :
    (kind : QueryKind) → QueryKey → Option (Option (kind.Data T))
  | .list, key => refs.listContextRef.bind fun context =>
      if context.queryKey = key then some context.previousData else none
  | .item, key => refs.itemContextRef.bind fun context =>
      if context.queryKey = key then some context.previousData else none

section Rollback

variable {ids} {client before : QueryClient T} {refs : HookRefs T} {kind : QueryKind}
  {key : QueryKey}

theorem rollback_self {context : OptimisticContext T kind} :
    rollbackOptimisticUpdate context client kind context.queryKey = context.previousData := by
  unfold rollbackOptimisticUpdate
  cases context.previousData with
  | none => exact if_pos (List.prefix_refl _)
  | some data => exact setQueryData_self

theorem rollback_of_ne {other : QueryKind} {context : OptimisticContext T kind}
    (hother : ¬ (other = kind ∧ key = context.queryKey)) (hspares : ¬ context.Removes key) :
    rollbackOptimisticUpdate context client other key = client other key := by
  unfold rollbackOptimisticUpdate
  cases hfound : context.previousData with
  | none => exact if_neg fun hprefix => hspares ⟨hfound, hprefix⟩
  | some data => exact setQueryData_of_ne hother

theorem found_list {context : OptimisticContext T .list} (h : refs.listContextRef = some context) :
    refs.found .list key =
      if context.queryKey = key then some context.previousData else none := by
  unfold HookRefs.found
  rw [h]
  rfl

theorem found_item {context : OptimisticContext T .item} (h : refs.itemContextRef = some context) :
    refs.found .item key =
      if context.queryKey = key then some context.previousData else none := by
  unfold HookRefs.found
  rw [h]
  rfl

/-- The first part of a rollback, for one query. -/
def restoreList (refs : HookRefs T) (client : QueryClient T) : QueryClient T :=
  match refs.listContextRef with
  | none => client
  | some context => rollbackOptimisticUpdate context client

theorem handleError_eq : handleError true refs client =
    match refs.itemContextRef with
    | none => restoreList refs client
    | some context => rollbackOptimisticUpdate context (restoreList refs client) := rfl

theorem restoreList_list (hspares : refs.Spares .list key) :
    restoreList refs client .list key = (refs.found .list key).getD (client .list key) := by
  unfold restoreList
  rcases hcontext : refs.listContextRef with _ | context
  · unfold HookRefs.found
    rw [hcontext]
    rfl
  · rw [found_list hcontext]
    by_cases hkey : context.queryKey = key
    · subst hkey
      rw [if_pos rfl]
      exact rollback_self
    · rw [if_neg hkey]
      refine rollback_of_ne (fun h => hkey h.2.symm) fun hremoves => ?_
      obtain ⟨-, hsame⟩ | ⟨hkind, -⟩ := hspares.list context hcontext hremoves
      · exact hkey hsame
      · cases hkind

/-- **A rollback**, for one query: what the refs remember of it, or what it holds. -/
theorem handleError_apply (hspares : refs.Spares kind key) :
    handleError true refs client kind key = (refs.found kind key).getD (client kind key) := by
  rw [handleError_eq]
  cases kind with
  | list =>
      rw [← restoreList_list hspares]
      rcases hcontext : refs.itemContextRef with _ | context
      · rfl
      · refine rollback_of_ne (fun h => by cases h.1) fun hremoves => ?_
        cases (hspares.item context hcontext hremoves).1
  | item =>
      have hlist : (∀ own ∈ refs.itemContextRef, own.queryKey ≠ key) →
          restoreList refs client .item key = client .item key := by
        intro hnone
        unfold restoreList
        rcases hcontext : refs.listContextRef with _ | context
        · rfl
        · refine rollback_of_ne (fun h => by cases h.1) fun hremoves => ?_
          obtain ⟨hkind, -⟩ | ⟨-, own, hown, hsame⟩ := hspares.list context hcontext hremoves
          · cases hkind
          · exact hnone own hown hsame
      rcases hcontext : refs.itemContextRef with _ | context
      · unfold HookRefs.found
        rw [hcontext]
        exact hlist fun own hown => by
          rw [hcontext] at hown
          cases hown
      · rw [found_item hcontext]
        by_cases hkey : context.queryKey = key
        · subst hkey
          rw [if_pos rfl]
          exact rollback_self
        · rw [if_neg hkey]
          refine (rollback_of_ne (fun h => hkey h.2.symm) fun hremoves => ?_).trans (hlist ?_)
          · exact hkey (hspares.item context hcontext hremoves).2
          · intro own hown
            rw [hcontext] at hown
            obtain rfl := Option.some.inj hown
            exact hkey

theorem remembers_change {C U : Type} {change : Option (QueryKey × C)} (updater : C → U) :
    ((change.map fun change => createOptimisticContext kind change.1 before).bind fun context =>
        if context.queryKey = key then some context.previousData else none) =
      if (change.bind fun change =>
          if change.1 = key then some (updater change.2) else none).isSome = true
      then some (before kind key) else none := by
  obtain _ | ⟨queryKey, change⟩ := change
  · rfl
  · by_cases hkey : queryKey = key
    · subst hkey
      simp [createOptimisticContext]
    · simp [createOptimisticContext, hkey]

theorem found_contexts {mutation : Mutation T} : (mutation.contexts before).found kind key =
    if mutation.Touches ids kind key then some (before kind key) else none := by
  cases kind with
  | list => exact remembers_change fun (change : ListUpdate T) old => (change.updater ids old).or old
  | item => exact remembers_change ItemUpdate.updater

end Rollback

/-- The started mutations, as updates of one query that are undone by what they found. -/
def history (kind : QueryKind) (key : QueryKey) :
    History (Option (kind.Data T)) (Started T) where
  update m := m.mutation.effect ids kind key
  Touches m := m.mutation.Touches ids kind key
  undone m := m.outcome = some false && m.mutation.rollsBack
  isOpen m := m.outcome = none && m.mutation.rollsBack
  found m := m.before kind key
  untouched := by
    intro m old htouches
    unfold Mutation.Touches at htouches
    unfold Mutation.effect
    rw [Option.not_isSome_iff_eq_none.1 htouches]
  not_undone := by
    intro m hopen
    have hnone : m.outcome = none := by simpa using (Bool.and_eq_true_iff.1 hopen).1
    simp [hnone]

/-- The refs of a hook hold the contexts of the one mutation of it that has not settled. -/
structure Owns (s : Mutations T) : Prop where
  held : ∀ m ∈ s.started, m.outcome = none → s.refs m.hook = m.mutation.contexts m.before
  cleared : ∀ hook, (∀ m ∈ s.started, m.hook = hook → m.settled = true) → s.refs hook = {}
  alone : s.started.Pairwise fun m other =>
    m.hook = other.hook → m.settled = true ∨ other.settled = true
  ended : ∀ m ∈ s.started, m.settled = true → m.outcome ≠ none

/-- No two mutations of a hook at a time, and no removal takes the query with another one. -/
def Undisturbed (kind : QueryKind) (key : QueryKey) (s : Mutations T) : MutationAction T → Prop
  | .mutate hook mutation =>
      (∀ m ∈ s.started, m.hook = hook → m.settled = true) ∧ mutation.Spares kind key
  | .error number => ∀ m ∈ s.started[number]?, m.mutation.rollsBack = true →
      (s.refs m.hook).Spares kind key
  | _ => True

/-- A mutation that changed the query is rolled back after all that changed it later. -/
def InOrder (kind : QueryKind) (key : QueryKey) (s : Mutations T) : MutationAction T → Prop
  | .error number => ∀ m ∈ s.started[number]?, m.mutation.rollsBack = true →
      m.mutation.Touches ids kind key → ∀ later ∈ s.started.drop (number + 1),
        later.mutation.Touches ids kind key → (history ids kind key).undone later = true
  | _ => True

section Runs

variable {ids} {s t : Mutations T}

/-- A numbered mutation stands between the earlier and the later ones. -/
theorem split_at {α : Type} {list : List α} {number : Nat} {m : α}
    (h : list[number]? = some m) : ∃ pre, list = pre ++ m :: list.drop (number + 1) ∧
      ∀ other, list.set number other = pre ++ other :: list.drop (number + 1) := by
  induction list generalizing number with
  | nil => simp at h
  | cons first rest ih =>
      cases number with
      | zero =>
          obtain rfl : first = m := by simpa using h
          exact ⟨[], rfl, fun other => rfl⟩
      | succ number =>
          obtain ⟨pre, hsplit, hset⟩ := ih (by simpa using h)
          refine ⟨first :: pre, congrArg (first :: ·) hsplit, fun other => ?_⟩
          exact congrArg (first :: ·) (hset other)

/-- What a step does, with its mutation between the earlier and the later ones. -/
inductive Steps (ids : ItemIds T) (s : Mutations T) : MutationAction T → Mutations T → Prop
  | mutate (hook : Nat) (mutation : Mutation T) :
      Steps ids s (.mutate hook mutation)
        { client := (mutationFn ids mutation s.client (s.refs hook)).1
          refs := Function.update s.refs hook (mutationFn ids mutation s.client (s.refs hook)).2
          started := s.started ++ [{ hook, mutation, before := s.client }] }
  | error {number : Nat} {m : Started T} {pre : List (Started T)}
      (hget : s.started[number]? = some m)
      (hsplit : s.started = pre ++ m :: s.started.drop (number + 1)) (hrunning : m.outcome = none) :
      Steps ids s (.error number)
        { client := handleError m.mutation.rollsBack (s.refs m.hook) s.client
          refs := Function.update s.refs m.hook {}
          started := pre ++ { m with outcome := some false } :: s.started.drop (number + 1) }
  | success {number : Nat} {m : Started T} {pre : List (Started T)}
      (hsplit : s.started = pre ++ m :: s.started.drop (number + 1)) (hrunning : m.outcome = none) :
      Steps ids s (.success number)
        { s with started :=
            pre ++ { m with outcome := some true } :: s.started.drop (number + 1) }
  | replaced {number : Nat} {m : Started T} {queryKey : QueryKey} (provisionalId serverId : String) :
      Steps ids s (.replaced number provisionalId serverId)
        { s with
          client := updateQueryData .list queryKey
            ((replaceId ids provisionalId serverId).updater ids) s.client
          started := s.started ++
            [{ hook := m.hook
               mutation := { list := some (queryKey, replaceId ids provisionalId serverId) }
               before := s.client, outcome := some true, settled := true }] }
  | settled {number : Nat} {m : Started T} {pre : List (Started T)}
      (hsplit : s.started = pre ++ m :: s.started.drop (number + 1)) (hended : m.outcome ≠ none)
      (hfirst : m.settled = false) :
      Steps ids s (.settled number)
        { s with
          refs := Function.update s.refs m.hook {}
          started := pre ++ { m with settled := true } :: s.started.drop (number + 1) }

theorem steps_of_step {action : MutationAction T} (h : step ids s action = some t) :
    Steps ids s action t := by
  cases action with
  | mutate hook mutation =>
      obtain rfl := Option.some.inj h
      exact .mutate hook mutation
  | error number =>
      unfold step at h
      rcases hget : s.started[number]? with _ | m
      · simp [hget] at h
      · obtain ⟨pre, hsplit, hset⟩ := split_at hget
        simp only [hget] at h
        split at h
        next hrunning =>
            obtain rfl := Option.some.inj h
            rw [hset]
            exact .error hget hsplit hrunning
        next => cases h
  | success number =>
      unfold step at h
      rcases hget : s.started[number]? with _ | m
      · simp [hget] at h
      · obtain ⟨pre, hsplit, hset⟩ := split_at hget
        simp only [hget] at h
        split at h
        next hrunning =>
            obtain rfl := Option.some.inj h
            rw [hset]
            exact .success hsplit hrunning
        next => cases h
  | replaced number provisionalId serverId =>
      unfold step at h
      rcases hget : s.started[number]? with _ | m
      · simp [hget] at h
      · simp only [hget] at h
        rcases hlist : m.mutation.list with _ | ⟨queryKey, change⟩
        · simp [hlist] at h
        · simp only [hlist] at h
          split at h
          next =>
              obtain rfl := Option.some.inj h
              rw [run_list]
              exact .replaced provisionalId serverId
          next => cases h
  | settled number =>
      unfold step at h
      rcases hget : s.started[number]? with _ | m
      · simp [hget] at h
      · obtain ⟨pre, hsplit, hset⟩ := split_at hget
        simp only [hget] at h
        split at h
        next hguard =>
            obtain rfl := Option.some.inj h
            rw [hset]
            exact .settled hsplit hguard.1 hguard.2
        next => cases h

theorem owns_nil (client : QueryClient T) : Owns { client := client } where
  held := fun _ hm => absurd hm List.not_mem_nil
  cleared := fun _ _ => rfl
  alone := .nil
  ended := fun _ hm => absurd hm List.not_mem_nil

theorem Owns.mutate {hook : Nat} {mutation : Mutation T} (h : Owns s)
    (hidle : ∀ m ∈ s.started, m.hook = hook → m.settled = true) :
    Owns
      { client := (mutationFn ids mutation s.client (s.refs hook)).1
        refs := Function.update s.refs hook (mutationFn ids mutation s.client (s.refs hook)).2
        started := s.started ++ [{ hook, mutation, before := s.client }] } where
  held := by
    intro m hm hrunning
    obtain hold | hnew := List.mem_append.1 hm
    · have hother : m.hook ≠ hook := fun hsame => h.ended m hold (hidle m hold hsame) hrunning
      exact (Function.update_of_ne hother _ _).trans (h.held m hold hrunning)
    · rw [List.mem_singleton.1 hnew]
      refine (Function.update_self hook _ _).trans ?_
      rw [h.cleared hook hidle, mutationFn_refs]
  cleared := by
    intro other hsettled
    by_cases hsame : other = hook
    · have hnew := hsettled _ (List.mem_append_right _ List.mem_cons_self) hsame.symm
      cases hnew
    · refine (Function.update_of_ne hsame _ _).trans (h.cleared other fun m hm => ?_)
      exact hsettled m (List.mem_append_left _ hm)
  alone := by
    refine List.pairwise_append.2 ⟨h.alone, List.pairwise_singleton _ _, ?_⟩
    intro m hm other hother hhook
    rw [List.mem_singleton.1 hother] at hhook
    exact .inl (hidle m hm hhook)
  ended := by
    intro m hm hsettled
    obtain hold | hnew := List.mem_append.1 hm
    · exact h.ended m hold hsettled
    · rw [List.mem_singleton.1 hnew] at hsettled
      cases hsettled

/-- A change that is not remembered, with the mutations that have settled. -/
theorem Owns.snoc {m : Started T} {client : QueryClient T} (h : Owns s) (hsettled : m.settled = true)
    (hended : m.outcome ≠ none) : Owns { s with client, started := s.started ++ [m] } where
  held := by
    intro other hother hrunning
    obtain hold | hnew := List.mem_append.1 hother
    · exact h.held other hold hrunning
    · rw [List.mem_singleton.1 hnew] at hrunning
      exact absurd hrunning hended
  cleared := fun hook hall => h.cleared hook fun other hother =>
    hall other (List.mem_append_left _ hother)
  alone := by
    refine List.pairwise_append.2 ⟨h.alone, List.pairwise_singleton _ _, ?_⟩
    intro other _ last hlast _
    rw [List.mem_singleton.1 hlast]
    exact .inr hsettled
  ended := by
    intro other hother hdone
    obtain hold | hnew := List.mem_append.1 hother
    · exact h.ended other hold hdone
    · rw [List.mem_singleton.1 hnew]
      exact hended

section Change

variable {pre post : List (Started T)} {m changed : Started T}

theorem mem_changed {other : Started T} (hsplit : s.started = pre ++ m :: post)
    (h : other ∈ pre ++ changed :: post) :
    other = changed ∨ (other ∈ s.started ∧ (other ∈ pre ∨ other ∈ post)) := by
  rw [hsplit]
  obtain hbefore | hafter := List.mem_append.1 h
  · exact .inr ⟨List.mem_append_left _ hbefore, .inl hbefore⟩
  · obtain hsame | hlater := List.mem_cons.1 hafter
    · exact .inl hsame
    · exact .inr ⟨List.mem_append_right _ (List.mem_cons_of_mem _ hlater), .inr hlater⟩

theorem Owns.others_settled (h : Owns s) (hsplit : s.started = pre ++ m :: post)
    (hopen : m.settled = false) {other : Started T} (hother : other ∈ pre ∨ other ∈ post)
    (hhook : other.hook = m.hook) : other.settled = true := by
  have halone := h.alone
  rw [hsplit] at halone
  obtain ⟨-, hpost, hapart⟩ := List.pairwise_append.1 halone
  have hsettled : other.settled = true ∨ m.settled = true := by
    obtain hbefore | hlater := hother
    · exact hapart other hbefore m List.mem_cons_self hhook
    · exact ((List.pairwise_cons.1 hpost).1 other hlater hhook.symm).symm
  rw [hopen] at hsettled
  exact hsettled.resolve_right (by simp)

theorem Owns.alone_changed (h : Owns s) (hsplit : s.started = pre ++ m :: post)
    (hhook : changed.hook = m.hook) (hkeeps : m.settled = true → changed.settled = true) :
    (pre ++ changed :: post).Pairwise fun m other =>
      m.hook = other.hook → m.settled = true ∨ other.settled = true := by
  have halone := h.alone
  rw [hsplit] at halone
  obtain ⟨hpre, hpost, hapart⟩ := List.pairwise_append.1 halone
  obtain ⟨hfirst, hrest⟩ := List.pairwise_cons.1 hpost
  refine List.pairwise_append.2 ⟨hpre, List.pairwise_cons.2 ⟨?_, hrest⟩, ?_⟩
  · intro other hother hsame
    exact (hfirst other hother (hhook.symm.trans hsame)).imp_left hkeeps
  · intro other hother last hlast hsame
    obtain rfl | hlater := List.mem_cons.1 hlast
    · exact (hapart other hother m List.mem_cons_self (hsame.trans hhook)).imp_right hkeeps
    · exact hapart other hother last (List.mem_cons_of_mem _ hlater) hsame

/-- **The refs are cleared** when a mutation fails or settles. -/
theorem Owns.clear {client : QueryClient T} (h : Owns s) (hsplit : s.started = pre ++ m :: post)
    (hhook : changed.hook = m.hook) (hkeeps : m.settled = true → changed.settled = true)
    (hopen : m.settled = false) (hended : changed.outcome ≠ none) :
    Owns
      { client := client, refs := Function.update s.refs m.hook {}
        started := pre ++ changed :: post } where
  held := by
    intro other hother hrunning
    obtain rfl | ⟨hold, hplace⟩ := mem_changed hsplit hother
    · exact absurd hrunning hended
    · have hapart : other.hook ≠ m.hook := fun hsame =>
        h.ended other hold (h.others_settled hsplit hopen hplace hsame) hrunning
      exact (Function.update_of_ne hapart _ _).trans (h.held other hold hrunning)
  cleared := by
    intro hook hall
    by_cases hsame : hook = m.hook
    · rw [hsame]
      exact Function.update_self _ _ _
    · refine (Function.update_of_ne hsame _ _).trans (h.cleared hook fun other hother hits => ?_)
      rw [hsplit] at hother
      obtain hbefore | hafter := List.mem_append.1 hother
      · exact hall other (List.mem_append_left _ hbefore) hits
      · obtain rfl | hlater := List.mem_cons.1 hafter
        · exact absurd hits.symm hsame
        · exact hall other (List.mem_append_right _ (List.mem_cons_of_mem _ hlater)) hits
  alone := h.alone_changed hsplit hhook hkeeps
  ended := by
    intro other hother hsettled
    obtain rfl | ⟨hold, -⟩ := mem_changed hsplit hother
    · exact hended
    · exact h.ended other hold hsettled

theorem Owns.success (h : Owns s) (hsplit : s.started = pre ++ m :: post) :
    Owns { s with started := pre ++ { m with outcome := some true } :: post } where
  held := by
    intro other hother hrunning
    obtain rfl | ⟨hold, -⟩ := mem_changed hsplit hother
    · cases hrunning
    · exact h.held other hold hrunning
  cleared := by
    intro hook hall
    refine h.cleared hook fun other hother hits => ?_
    rw [hsplit] at hother
    obtain hbefore | hafter := List.mem_append.1 hother
    · exact hall other (List.mem_append_left _ hbefore) hits
    · obtain rfl | hlater := List.mem_cons.1 hafter
      · exact hall { other with outcome := some true }
          (List.mem_append_right _ List.mem_cons_self) hits
      · exact hall other (List.mem_append_right _ (List.mem_cons_of_mem _ hlater)) hits
  alone := h.alone_changed hsplit rfl id
  ended := by
    intro other hother hsettled
    obtain rfl | ⟨hold, -⟩ := mem_changed hsplit hother
    · simp
    · exact h.ended other hold hsettled

end Change

variable {kind : QueryKind} {key : QueryKey} {action : MutationAction T}

theorem Owns.step (h : Owns s) (hundisturbed : Undisturbed kind key s action)
    (hstep : Steps ids s action t) : Owns t := by
  cases hstep with
  | mutate hook mutation => exact h.mutate hundisturbed.1
  | error hget hsplit hrunning =>
      have hmem := List.mem_of_getElem? hget
      refine h.clear hsplit rfl id ?_ (by simp)
      by_contra hsettled
      exact h.ended _ hmem (by simpa using hsettled) hrunning
  | success hsplit hrunning => exact h.success hsplit
  | replaced provisionalId serverId => exact h.snoc rfl (by simp)
  | settled hsplit hended hfirst => exact h.clear hsplit rfl (fun _ => rfl) hfirst hended

/-- **A rollback restores** what its mutation found, and leaves the queries that the mutation did
not change. -/
theorem Owns.restores (h : Owns s) {number : Nat} {m : Started T}
    (hget : s.started[number]? = some m) (hrunning : m.outcome = none)
    (hrolls : m.mutation.rollsBack = true)
    (hundisturbed : Undisturbed kind key s (.error number)) :
    handleError m.mutation.rollsBack (s.refs m.hook) s.client kind key =
      if m.mutation.Touches ids kind key then m.before kind key else s.client kind key := by
  have hheld := h.held m (List.mem_of_getElem? hget) hrunning
  have hspares : (s.refs m.hook).Spares kind key := hundisturbed m hget hrolls
  rw [hrolls, handleError_apply hspares, hheld, @found_contexts _ ids]
  by_cases htouches : m.mutation.Touches ids kind key
  · rw [if_pos htouches, if_pos htouches]
    rfl
  · rw [if_neg htouches, if_neg htouches]
    rfl

theorem effect_replaced {queryKey : QueryKey} {change : ListUpdate T} {client : QueryClient T} :
    updateQueryData .list queryKey (change.updater ids) client kind key =
      Mutation.effect ids { list := some (queryKey, change) } kind key (client kind key) := by
  let mutation : Mutation T := { list := some (queryKey, change) }
  cases kind with
  | list => exact @changeList_list _ ids mutation client key
  | item =>
      refine (@changeList_item _ ids mutation client key).trans ?_
      exact (effect_item_none rfl _).symm

/-- **A step**, for one query: what holds it is what the mutations that are not rolled back make
of what it held at first. -/
theorem Owns.sound_step (h : Owns s) {start : Option (kind.Data T)}
    (hsound : (history ids kind key).Sound start (s.client kind key) s.started)
    (hundisturbed : Undisturbed kind key s action) (horder : InOrder ids kind key s action)
    (hstep : Steps ids s action t) :
    (history ids kind key).Sound start (t.client kind key) t.started := by
  cases hstep with
  | mutate hook mutation =>
      dsimp only
      rw [mutationFn_client hundisturbed.2]
      let m : Started T := { hook, mutation, before := s.client }
      exact hsound.update (e := m) rfl rfl
  | @error number m pre hget hsplit hrunning =>
      rw [hsplit] at hsound
      have hlive : (history ids kind key).undone m = false := by
        simp [history, hrunning]
      cases hrolls : m.mutation.rollsBack with
      | false =>
          refine hsound.revise rfl ?_ ?_ id
          · exact (show _ = false by simp [history, hrolls]).trans hlive.symm
          · intro hopen
            simp [history] at hopen
      | true =>
          have hvalue : handleError m.mutation.rollsBack (s.refs m.hook) s.client kind key =
              if m.mutation.Touches ids kind key then m.before kind key
              else s.client kind key :=
            h.restores hget hrunning hrolls hundisturbed
          rw [hrolls] at hvalue
          dsimp only
          rw [hvalue]
          by_cases htouches : m.mutation.Touches ids kind key
          · rw [if_pos htouches]
            refine hsound.undo ?_ htouches ?_ ?_ (horder m hget hrolls htouches)
            · simp [history, hrunning, hrolls]
            · simp [history, hrolls]
            · simp [history]
          · rw [if_neg htouches]
            refine hsound.undo_untouched htouches hlive ?_ ?_
            · simp [history, hrolls]
            · simp [history]
  | @success number m pre hsplit hrunning =>
      rw [hsplit] at hsound
      refine hsound.revise rfl ?_ ?_ id
      · simp [history, hrunning]
      · intro hopen
        simp [history] at hopen
  | @replaced number creation queryKey provisionalId serverId =>
      dsimp only
      rw [effect_replaced]
      let m : Started T :=
        { hook := creation.hook
          mutation := { list := some (queryKey, replaceId ids provisionalId serverId) }
          before := s.client, outcome := some true, settled := true }
      exact hsound.update (e := m) rfl rfl
  | @settled number m pre hsplit hended hfirst =>
      rw [hsplit] at hsound
      exact hsound.revise rfl rfl (fun hopen => ⟨hopen, rfl⟩) id

end Runs

def userNames : ItemIds String where
  id name := name
  withId _ serverId := serverId

/-- A user that is added to the list. -/
def addingUser (name : String) : Mutation String where
  list := some (["users"], .add name)

def noUsers : QueryClient String := Function.update (fun _ _ => none) .list fun key =>
  if key = ["users"] then some [] else none

/-- One hook adds Ada, another one adds Grace, and the addition of Grace fails. -/
def nested : List (MutationAction String) :=
  [.mutate 0 (addingUser "Ada"), .mutate 1 (addingUser "Grace"), .error 1]

theorem nested_allowed : Allowed (step userNames)
    (fun s a => Undisturbed .list ["users"] s a ∧ InOrder userNames .list ["users"] s a)
    { client := noUsers } nested := by
  refine ⟨⟨⟨by simp, fun _ hremoved => by cases hremoved⟩, trivial⟩, fun t ht => ?_⟩
  obtain rfl := Option.some.inj ht
  refine ⟨⟨⟨by decide, fun _ hremoved => by cases hremoved⟩, trivial⟩, fun t ht => ?_⟩
  obtain rfl := Option.some.inj ht
  refine ⟨⟨?_, ?_⟩, fun _ _ => trivial⟩
  · intro m hm _
    obtain rfl := Option.some.inj hm
    constructor
    · intro context hcontext hremoves
      obtain rfl := Option.some.inj hcontext
      cases hremoves.1
    · intro context hcontext
      cases hcontext
  · intro m hm _ _ later hlater
    exact absurd hlater List.not_mem_nil

/-- One hook adds Ada, another one adds Grace, and the addition of Ada fails. -/
def overlapping : List (MutationAction String) :=
  [.mutate 0 (addingUser "Ada"), .mutate 1 (addingUser "Grace"), .error 0]

end DataLayer

end Zentra
