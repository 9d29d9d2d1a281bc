import Zentra.ProvisionalIds
import Zentra.RaisingTriple

/-!
# The registration of a mapping

A manager keeps the mappings of provisional ids in memory, and writes all of them into the
store of its browser whenever they change.  A write may fail.

* `registerIdMapping_call` — what a call comes to;
* `registersAtomically_iff` — when a registration is atomic: a write that fails is reported,
  but the call goes on as if it had not.
-/

open Raising Raising.Method TableRows

namespace Zentra

namespace ProvisionalIds

/-- `idMappings`: a `Map` by the provisional ids, in the order of insertion. -/
structure IdMappings where
  entries : List IdMapping := []
  distinct : (entries.map IdMapping.provisionalId).Nodup := by decide
  deriving DecidableEq

section Lists

variable {mapping : IdMapping} {mappings : List IdMapping} {config : Config} {now : Int}

theorem nodup_setMapping (h : (mappings.map IdMapping.provisionalId).Nodup) :
    ((setMapping mapping mappings).map IdMapping.provisionalId).Nodup := by
  unfold setMapping
  by_cases hold : ∃ other ∈ mappings, other.provisionalId = mapping.provisionalId
  · rw [if_pos hold]
    have hsame : (update (fun other : IdMapping => other.provisionalId = mapping.provisionalId)
        (fun _ => mapping) mappings).map IdMapping.provisionalId =
          mappings.map IdMapping.provisionalId := by
      unfold update
      rw [List.map_map]
      refine List.map_congr_left fun other _ => ?_
      by_cases hid : other.provisionalId = mapping.provisionalId
      · simp [hid]
      · simp [hid]
    rw [hsame]
    exact h
  · rw [if_neg hold, List.map_append, List.nodup_append]
    refine ⟨h, by simp, ?_⟩
    intro id hid new hnew heq
    obtain ⟨other, hother, rfl⟩ := List.mem_map.1 hid
    have hmapping : new = mapping.provisionalId := by simpa using hnew
    exact hold ⟨other, hother, heq.trans hmapping⟩

theorem mem_setMapping_self (mapping : IdMapping) (mappings : List IdMapping) :
    mapping ∈ setMapping mapping mappings := by
  unfold setMapping
  by_cases hold : ∃ other ∈ mappings, other.provisionalId = mapping.provisionalId
  · rw [if_pos hold]
    obtain ⟨other, hother, hid⟩ := hold
    refine List.mem_map.2 ⟨other, hother, ?_⟩
    rw [if_pos hid]
  · rw [if_neg hold]
    exact List.mem_append_right _ List.mem_cons_self

theorem cleanup_sublist : (cleanupIdMappings config now mappings).Sublist mappings :=
  List.filter_sublist.trans List.filter_sublist

/-- The newest of the mappings that are not too old, as many as may be kept. -/
def newest (config : Config) (now : Int) (mappings : List IdMapping) : List IdMapping :=
  (ordered IdMapping.mappedAt (fresh config now mappings)).drop
    ((fresh config now mappings).length - config.maxIdMappings)

/-- **What a cleanup keeps**: the newest mappings. -/
theorem mem_cleanup (config : Config) (now : Int) (mapping : IdMapping)
    (h : (mappings.map IdMapping.provisionalId).Nodup) :
    mapping ∈ cleanupIdMappings config now mappings ↔ mapping ∈ newest config now mappings := by
  have hperm : (ordered IdMapping.mappedAt (fresh config now mappings)).Perm
      (fresh config now mappings) := List.perm_insertionSort _ _
  have hsplit := List.take_append_drop
    ((fresh config now mappings).length - config.maxIdMappings)
    (ordered IdMapping.mappedAt (fresh config now mappings))
  have hfresh : ((fresh config now mappings).map IdMapping.provisionalId).Nodup :=
    h.sublist (List.filter_sublist.map _)
  have hdistinct := (hperm.map IdMapping.provisionalId).nodup_iff.2 hfresh
  rw [← hsplit, List.map_append, List.nodup_append] at hdistinct
  unfold cleanupIdMappings
  dsimp only
  rw [mem_select]
  constructor
  · intro ⟨hmem, hother⟩
    have hordered := hperm.mem_iff.2 hmem
    rw [← hsplit] at hordered
    obtain hold | hnew := List.mem_append.1 hordered
    · exact absurd rfl (hother mapping hold)
    · exact hnew
  · intro hnew
    refine ⟨hperm.mem_iff.1 (List.mem_of_mem_drop hnew), fun other hold heq => ?_⟩
    exact hdistinct.2.2 _ (List.mem_map_of_mem hold) _ (List.mem_map_of_mem hnew) heq

end Lists

namespace IdMappings

def set (mapping : IdMapping) (mappings : IdMappings) : IdMappings where
  entries := setMapping mapping mappings.entries
  distinct := nodup_setMapping mappings.distinct

def delete (provisionalId : String) (mappings : IdMappings) : IdMappings where
  entries := select (fun mapping => mapping.provisionalId ≠ provisionalId) mappings.entries
  distinct := mappings.distinct.sublist (List.filter_sublist.map _)

/-- What `cleanupIdMappings` leaves. -/
def cleaned (config : Config) (now : Int) (mappings : IdMappings) : IdMappings where
  entries := cleanupIdMappings config now mappings.entries
  distinct := mappings.distinct.sublist (cleanup_sublist.map _)

end IdMappings

inductive StoredMappings
  | mappings (mappings : List IdMapping)
  /-- not an array of mappings -/
  | invalid
  deriving DecidableEq

inductive RegistrationError
  | disposed
  | invalidMapping
  | storage
  deriving DecidableEq, Repr

/-- `OfflineQueueManager`, with the entry of its store and the contexts of the errors that it
has reported. -/
structure QueueManager where
  idMappings : IdMappings := {}
  initialized : Bool := false
  isDisposed : Bool := false
  stored : Option StoredMappings := none
  errors : List String := []
  deriving DecidableEq

/-- What the store's operations do in the course of a call, and what the clock says. -/
structure Circumstances where
  /-- reading the mappings goes through -/
  loads : Bool
  /-- deleting an entry that is no array of mappings goes through -/
  deletes : Bool
  /-- the write of the cleanup after reading goes through -/
  cleansLoaded : Bool
  /-- the write of the cleanup of too many mappings goes through -/
  cleans : Bool
  /-- the write of the registration itself goes through -/
  stores : Bool
  loadedAt : Int := 0
  registeredAt : Int := 0

abbrev ManagerMethod : Type := Method QueueManager RegistrationError Unit

/-- `handleError`: an error is reported. -/
def handleError (context : String) : ManagerMethod :=
  assign fun manager => { manager with errors := manager.errors ++ [context] }

def storeOperation (succeeds : Bool) : ManagerMethod :=
  raiseIf (fun _ => succeeds = false) fun _ => .storage

def persistIdMappings (stores : Bool) : ManagerMethod :=
  catching (do
      storeOperation stores
      assign fun manager =>
        { manager with stored := some (.mappings manager.idMappings.entries) })
    fun _ => handleError "ID mappings persistence"

/-- `cleanupIdMappings`.  Its write is not awaited; no other one overtakes it. -/
def cleanup (config : Config) (now : Int) (cleans : Bool) : ManagerMethod := do
  let manager ← self
  let kept := manager.idMappings.cleaned config now
  assign fun manager => { manager with idMappings := kept }
  if kept ≠ manager.idMappings then
    catching (persistIdMappings cleans) fun _ => handleError "ID mappings cleanup persistence"

def loadIdMappings (config : Config) (circumstances : Circumstances) : ManagerMethod := do
  storeOperation circumstances.loads
  let manager ← self
  match manager.stored with
  | none => pure ()
  | some (.mappings mappings) => do
      assign fun manager => { manager with
        idMappings := mappings.foldl (fun loaded mapping => loaded.set mapping)
          manager.idMappings }
      cleanup config circumstances.loadedAt circumstances.cleansLoaded
  | some .invalid => do
      storeOperation circumstances.deletes
      assign fun manager => { manager with stored := none }

def doInitialize (config : Config) (circumstances : Circumstances) : ManagerMethod := do
  catching (loadIdMappings config circumstances) fun _ =>
    handleError "ID mappings initialization"
  assign fun manager => { manager with initialized := true }

def ensureInitialized (config : Config) (circumstances : Circumstances) : ManagerMethod := do
  let manager ← self
  if manager.initialized then pure ()
  else doInitialize config circumstances

/-- The eviction of a registration: a cleanup, if there are too many mappings. -/
def evict (config : Config) (circumstances : Circumstances) : ManagerMethod := do
  let manager ← self
  if config.maxIdMappings < manager.idMappings.entries.length then
    cleanup config circumstances.registeredAt circumstances.cleans
  else pure ()

/-- `registerIdMapping`; nothing is given for a value that is no mapping. -/
def registerIdMapping (config : Config) (circumstances : Circumstances)
    (mapping : Option IdMapping) : ManagerMethod := do
  raiseIf (fun manager => manager.isDisposed = true) fun _ => .disposed
  ensureInitialized config circumstances
  match mapping with
  | none => do
      handleError "registerIdMapping validation"
      raise .invalidMapping
  | some mapping => do
      assign fun manager => { manager with idMappings := manager.idMappings.set mapping }
      evict config circumstances
      catching (persistIdMappings circumstances.stores) fun error => do
        assign fun manager => { manager with
          idMappings := manager.idMappings.delete mapping.provisionalId }
        handleError "ID mapping persistence after registration"
        raise error

section Calls

variable {config : Config} {circumstances : Circumstances} {mapping : IdMapping}
  {manager : QueueManager} {now : Int}

/-- The writing of the mappings always returns: its error is only reported. -/
theorem persistIdMappings_call (stores : Bool) :
    (persistIdMappings stores).call manager = (.ok (),
      if stores = true then
        { manager with stored := some (.mappings manager.idMappings.entries) }
      else { manager with errors := manager.errors ++ ["ID mappings persistence"] }) := by
  cases stores with
  | true => rfl
  | false => rfl

theorem cleanup_call (config : Config) (now : Int) (manager : QueueManager) (cleans : Bool) :
    ∃ after, (cleanup config now cleans).call manager = (.ok (), after) ∧
      after.idMappings = manager.idMappings.cleaned config now := by
  unfold cleanup
  rw [call_self_bind, call_assign_bind]
  by_cases hkept : manager.idMappings.cleaned config now ≠ manager.idMappings
  · rw [if_pos hkept, call_catching, persistIdMappings_call]
    refine ⟨_, rfl, ?_⟩
    cases cleans with
    | true => rfl
    | false => rfl
  · rw [if_neg hkept]
    exact ⟨_, rfl, rfl⟩

theorem storeOperation_bind_call (succeeds : Bool) (rest : Unit → ManagerMethod) :
    (storeOperation succeeds >>= rest).call manager =
      if succeeds = true then (rest ()).call manager else (.error .storage, manager) := by
  cases succeeds with
  | true => exact call_raiseIf_bind _ _ _ _
  | false => exact call_raiseIf_bind _ _ _ _

/-- The mappings in memory after reading the store. -/
def loaded (config : Config) (circumstances : Circumstances) (manager : QueueManager) :
    IdMappings :=
  match circumstances.loads, manager.stored with
  | true, some (.mappings mappings) =>
      (mappings.foldl (fun loaded mapping => loaded.set mapping) manager.idMappings).cleaned
        config circumstances.loadedAt
  | _, _ => manager.idMappings

theorem loadIdMappings_call (config : Config) (circumstances : Circumstances)
    (manager : QueueManager) :
    ∃ result after, (loadIdMappings config circumstances).call manager = (result, after) ∧
      after.idMappings = loaded config circumstances manager := by
  unfold loadIdMappings loaded
  rw [storeOperation_bind_call]
  cases circumstances.loads with
  | false => exact ⟨_, _, rfl, rfl⟩
  | true =>
      rw [if_pos rfl, call_self_bind]
      cases hstored : manager.stored with
      | none => exact ⟨_, _, rfl, rfl⟩
      | some value =>
          cases value with
          | mappings mappings =>
              dsimp only
              rw [call_assign_bind]
              obtain ⟨after, hcall, hafter⟩ := cleanup_call config
                circumstances.loadedAt { manager with
                  idMappings := mappings.foldl (fun loaded mapping => loaded.set mapping)
                    manager.idMappings } circumstances.cleansLoaded
              exact ⟨_, after, hcall, hafter⟩
          | invalid =>
              dsimp only
              rw [storeOperation_bind_call]
              cases circumstances.deletes with
              | true => exact ⟨_, _, rfl, rfl⟩
              | false => exact ⟨_, _, rfl, rfl⟩

/-- The mappings in memory once the manager is initialized. -/
def held (config : Config) (circumstances : Circumstances) (manager : QueueManager) :
    IdMappings :=
  if manager.initialized then manager.idMappings else loaded config circumstances manager

theorem ensureInitialized_call (config : Config) (circumstances : Circumstances)
    (manager : QueueManager) :
    ∃ after, (ensureInitialized config circumstances).call manager = (.ok (), after) ∧
      after.idMappings = held config circumstances manager := by
  unfold ensureInitialized held
  rw [call_self_bind]
  by_cases hused : manager.initialized = true
  · rw [if_pos hused, if_pos hused]
    exact ⟨manager, rfl, rfl⟩
  · rw [if_neg hused, if_neg hused, doInitialize, call_bind, call_catching]
    obtain ⟨result, after, hcall, hafter⟩ := loadIdMappings_call config circumstances manager
    rw [hcall]
    cases result with
    | ok _ => exact ⟨{ after with initialized := true }, rfl, hafter⟩
    | error _ =>
        exact ⟨{ after with
          initialized := true, errors := after.errors ++ ["ID mappings initialization"] },
          rfl, hafter⟩

theorem evict_call (config : Config) (circumstances : Circumstances) (manager : QueueManager) :
    ∃ after, (evict config circumstances).call manager = (.ok (), after) ∧
      after.idMappings =
        if config.maxIdMappings < manager.idMappings.entries.length then
          manager.idMappings.cleaned config circumstances.registeredAt
        else manager.idMappings := by
  unfold evict
  rw [call_self_bind]
  by_cases hlength : config.maxIdMappings < manager.idMappings.entries.length
  · rw [if_pos hlength, if_pos hlength]
    exact cleanup_call _ _ _ _
  · rw [if_neg hlength, if_neg hlength]
    exact ⟨manager, rfl, rfl⟩

/-- The mappings in memory after the registration. -/
def registered (config : Config) (circumstances : Circumstances) (mapping : IdMapping)
    (manager : QueueManager) : IdMappings :=
  let mappings := (held config circumstances manager).set mapping
  if config.maxIdMappings < mappings.entries.length then
    mappings.cleaned config circumstances.registeredAt
  else mappings

/-- **What a registration comes to**: it returns, whether its write has gone through or
not. -/
theorem registerIdMapping_call (config : Config) (circumstances : Circumstances)
    (mapping : IdMapping) (hused : manager.isDisposed = false) :
    ∃ after, (registerIdMapping config circumstances (some mapping)).call manager =
        (.ok (), after) ∧
      after.idMappings = registered config circumstances mapping manager ∧
      (circumstances.stores = true →
        after.stored = some (.mappings after.idMappings.entries)) := by
  unfold registerIdMapping
  rw [call_raiseIf_bind, if_neg (by simp [hused]), call_bind]
  obtain ⟨ready, hready, hheld⟩ := ensureInitialized_call config circumstances manager
  rw [hready]
  dsimp only
  rw [call_assign_bind, call_bind]
  obtain ⟨evicted, hevicted, hkept⟩ := evict_call config circumstances
    { ready with idMappings := ready.idMappings.set mapping }
  rw [hevicted]
  dsimp only
  rw [call_catching, persistIdMappings_call]
  have hregistered : evicted.idMappings = registered config circumstances mapping manager := by
    rw [hkept, registered, ← hheld]
  cases circumstances.stores with
  | true => exact ⟨_, rfl, hregistered, fun _ => rfl⟩
  | false => exact ⟨_, rfl, hregistered, fun h => absurd h Bool.false_ne_true⟩

end Calls

section Atomic

variable (config : Config) (circumstances : Circumstances) (mapping : IdMapping)
  (manager : QueueManager)

/-- The mapping is in memory and in the store after a registration that returns, and a
registration whose write fails raises and leaves the mappings in memory as they were. -/
def RegistersAtomically : Prop :=
  let outcome := (registerIdMapping config circumstances (some mapping)).call manager
  (outcome.1 = .ok () →
    mapping ∈ outcome.2.idMappings.entries ∧
      ∃ mappings, outcome.2.stored = some (.mappings mappings) ∧ mapping ∈ mappings) ∧
  (manager.isDisposed = false → circumstances.stores = false →
    outcome.1 ≠ .ok () ∧ outcome.2.idMappings = manager.idMappings)

/-- The mapping is not evicted as it is registered: there is room for it, or it is one of the
newest. -/
def NotEvicted : Prop :=
  let mappings := setMapping mapping (held config circumstances manager).entries
  config.maxIdMappings < mappings.length →
    mapping ∈ newest config circumstances.registeredAt mappings

theorem mem_registered :
    mapping ∈ (registered config circumstances mapping manager).entries ↔
      NotEvicted config circumstances mapping manager := by
  unfold registered NotEvicted
  have hdistinct := ((held config circumstances manager).set mapping).distinct
  by_cases hlength : config.maxIdMappings <
      (setMapping mapping (held config circumstances manager).entries).length
  · have hcleaned := mem_cleanup config circumstances.registeredAt mapping hdistinct
    simp only [IdMappings.set, hlength, forall_const]
    exact hcleaned
  · have hset := mem_setMapping_self mapping
      (held config circumstances manager).entries
    simp only [IdMappings.set, hlength, false_implies, iff_true]
    exact hset

/-- **When a registration is atomic**: exactly if the manager is disposed, or the write goes
through and the mapping is not evicted. -/
theorem registersAtomically_iff :
    RegistersAtomically config circumstances mapping manager ↔
      manager.isDisposed = true ∨
        circumstances.stores = true ∧ NotEvicted config circumstances mapping manager := by
  cases hdisposed : manager.isDisposed with
  | true =>
      have hcall : (registerIdMapping config circumstances (some mapping)).call manager =
          (.error .disposed, manager) := by
        rw [registerIdMapping, call_raiseIf_bind, if_pos hdisposed]
      simp [RegistersAtomically, hcall, hdisposed]
  | false =>
      obtain ⟨after, hcall, hafter, hstored⟩ := registerIdMapping_call config circumstances
        mapping hdisposed
      rw [RegistersAtomically, hcall, ← mem_registered, ← hafter]
      cases hstores : circumstances.stores with
      | false => simp [hdisposed]
      | true =>
          have hwritten := hstored hstores
          simp [hwritten]

end Atomic

/-- A mapping that the store refuses to write is registered nevertheless. -/
theorem refusedWrite_returns :
    ¬ RegistersAtomically {} ⟨true, true, true, true, false, 0, 0⟩ ⟨"provisional_1", "7", 0⟩
      { initialized := true } := by
  have hcall := registerIdMapping_call {} ⟨true, true, true, true, false, 0, 0⟩
    ⟨"provisional_1", "7", 0⟩ (show QueueManager.isDisposed { initialized := true } = false from rfl)
  obtain ⟨after, hcall, -⟩ := hcall
  intro h
  refine (h.2 rfl rfl).1 ?_
  rw [hcall]

end ProvisionalIds

end Zentra
