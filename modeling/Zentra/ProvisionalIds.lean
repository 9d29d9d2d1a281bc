import Mathlib.Data.List.Induction
import Mathlib.Logic.Function.Basic
import Zentra.JsonDocument
import Zentra.StepTrace
import Zentra.TableRows

/-!
# Provisional ids

An entity that is created offline has a provisional id, which later mutations refer to.  Once
the server has created it, the id that it has there takes the place of the provisional one.

* `Resolvable` — the manager that sends a mutation has the mappings that it needs;
* `neverLeaks_iff_resolvable` — exactly the runs in which this is so never leak.
-/

open JsonDocument StepTrace TableRows

namespace Zentra

namespace ProvisionalIds

def isProvisionalId (id : String) : Bool := "provisional_".toList.isPrefixOf id.toList

mutual

def resolveValue (resolveId : String → Option String) : Json → Json
  | .string text =>
      if isProvisionalId text then .string ((resolveId text).getD text) else .string text
  | .array items => .array (resolveItems resolveId items)
  | .object members => .object (resolveMembers resolveId members)
  | value => value

def resolveItems (resolveId : String → Option String) : List Json → List Json
  | [] => []
  | item :: items => resolveValue resolveId item :: resolveItems resolveId items

def resolveMembers (resolveId : String → Option String) :
    List (String × Json) → List (String × Json)
  | [] => []
  | member :: members =>
      (member.1, resolveValue resolveId member.2) :: resolveMembers resolveId members

end

/-- A step into an array or an object. -/
inductive Index
  | item (n : Nat)
  | member (key : String)

/-- The value at a place of a document, at any depth. -/
def valueAt : List Index → Json → Option Json
  | [], value => some value
  | .item n :: path, .array items => (items[n]?).bind (valueAt path)
  | .member key :: path, .object members => (Object.get key members).bind (valueAt path)
  | _, _ => none

def isRecordPayload : Json → Bool
  | .object _ => true
  | _ => false

/-- The id stands somewhere in the payload. -/
def Occurs (id : String) (payload : Json) : Prop :=
  ∃ path, valueAt path payload = some (.string id)

/-- `IdMapping`; the name of its table is not read. -/
structure IdMapping where
  provisionalId : String
  serverId : String
  mappedAt : Int
  deriving DecidableEq

structure Config where
  maxIdMappings : Nat := 1000
  idMappingTtlMs : Int := 24 * 60 * 60 * 1000

/-- `idMappings.set`. -/
def setMapping (mapping : IdMapping) (mappings : List IdMapping) : List IdMapping :=
  if ∃ other ∈ mappings, other.provisionalId = mapping.provisionalId then
    update (fun other => other.provisionalId = mapping.provisionalId) (fun _ => mapping) mappings
  else mappings ++ [mapping]

def getServerId (provisionalId : String) (mappings : List IdMapping) : Option String :=
  (mappings.find? fun mapping => mapping.provisionalId = provisionalId).map IdMapping.serverId

def resolveId (mappings : List IdMapping) (id : String) : String :=
  if isProvisionalId id then (getServerId id mappings).getD id else id

/-- The first pass of `cleanupIdMappings`: mappings that are not too old. -/
def fresh (config : Config) (now : Int) (mappings : List IdMapping) : List IdMapping :=
  select (fun mapping => now - mapping.mappedAt ≤ config.idMappingTtlMs) mappings

/-- `cleanupIdMappings`: of the fresh mappings, the oldest are dropped if there are too many. -/
def cleanupIdMappings (config : Config) (now : Int) (mappings : List IdMapping) :
    List IdMapping :=
  let remaining := fresh config now mappings
  let oldest := (ordered IdMapping.mappedAt remaining).take
    (remaining.length - config.maxIdMappings)
  select (fun mapping => ∀ other ∈ oldest, other.provisionalId ≠ mapping.provisionalId) remaining

inductive MutationType
  | create
  | update
  | delete
  deriving DecidableEq, Repr

/-- What the executor reads of a mutation. -/
structure Mutation where
  type : MutationType
  entityId : String
  payload : Json

/-- What a processor is about to do: to hear from the executor about a mutation, or to
register a mapping. -/
inductive Phase
  | idle
  | calling (mutation : Mutation)
  | registering (mapping : IdMapping)

/-- The manager of a tab, with its processor. -/
structure Manager where
  idMappings : List IdMapping := []
  initialized : Bool := false
  phase : Phase := .idle

/-- What an executor has received for a mutation, and the entities that were created by then:
their provisional ids, and the ids they have on the server. -/
structure Received where
  mutation : Mutation
  entityId : String
  payload : Json
  created : List (String × String)

/-- The managers of all tabs over their common store, with a record of what was created and
what the executors have received. -/
structure State (ι : Type) where
  managers : ι → Manager := fun _ => {}
  persisted : List IdMapping := []
  created : List (String × String) := []
  received : List Received := []

/-- What can happen to a tab.  Reading the store may fail (`loaded`), and so may writing it
(`stored`). -/
inductive Event (ι : Type)
  | ensureInitialized (tab : ι) (now : Int) (loaded stored : Bool)
  | cleanup (tab : ι) (now : Int) (stored : Bool)
  | clear (tab : ι) (stored : Bool)
  | restart (tab : ι)
  | call (tab : ι) (mutation : Mutation)
  | respond (tab : ι) (serverId : Option String) (now : Int)
  | register (tab : ι) (now : Int) (stored : Bool)

variable {ι : Type}

/-- What the executor receives for a mutation. -/
def receive (mappings : List IdMapping) (created : List (String × String))
    (mutation : Mutation) : Received where
  mutation := mutation
  entityId := resolveId mappings mutation.entityId
  payload :=
    if isRecordPayload mutation.payload then
      resolveValue (fun id => getServerId id mappings) mutation.payload
    else mutation.payload
  created := created

section Step

variable [DecidableEq ι] (config : Config)

/-- Another manager in a tab, after a write of its mappings. -/
def State.put (s : State ι) (tab : ι) (manager : Manager) (stored : Bool) : State ι :=
  { s with
    managers := Function.update s.managers tab manager
    persisted := if stored then manager.idMappings else s.persisted }

/-- The operations of the managers and their processors. -/
def step (s : State ι) : Event ι → Option (State ι)
  | .ensureInitialized tab now loaded stored =>
      if (s.managers tab).initialized then some s
      else if loaded ∧ s.persisted ≠ [] then
        let read := s.persisted.foldl (fun mappings mapping => setMapping mapping mappings)
          (s.managers tab).idMappings
        let kept := cleanupIdMappings config now read
        some (s.put tab { s.managers tab with idMappings := kept, initialized := true }
          (stored && decide (kept ≠ read)))
      else some (s.put tab { s.managers tab with initialized := true } false)
  | .cleanup tab now stored =>
      let kept := cleanupIdMappings config now (s.managers tab).idMappings
      some (s.put tab { s.managers tab with idMappings := kept }
        (stored && decide (kept ≠ (s.managers tab).idMappings)))
  | .clear tab stored => some (s.put tab { s.managers tab with idMappings := [] } stored)
  | .restart tab => some (s.put tab {} false)
  | .call tab mutation =>
      match (s.managers tab).initialized, (s.managers tab).phase with
      | true, .idle =>
          some { s.put tab { s.managers tab with phase := .calling mutation } false with
            received := receive (s.managers tab).idMappings s.created mutation :: s.received }
      | _, _ => none
  | .respond tab serverId now =>
      match (s.managers tab).phase with
      | .calling mutation =>
          match serverId with
          | some serverId =>
              if mutation.type = .create ∧ isProvisionalId mutation.entityId ∧ serverId ≠ "" then
                some { s.put tab { s.managers tab with
                        phase := .registering ⟨mutation.entityId, serverId, now⟩ } false with
                  created := (mutation.entityId, serverId) :: s.created }
              else some (s.put tab { s.managers tab with phase := .idle } false)
          | none => some (s.put tab { s.managers tab with phase := .idle } false)
      | _ => none
  | .register tab now stored =>
      match (s.managers tab).initialized, (s.managers tab).phase with
      | true, .registering mapping =>
          let mappings := setMapping mapping (s.managers tab).idMappings
          let kept :=
            if config.maxIdMappings < mappings.length then cleanupIdMappings config now mappings
            else mappings
          some (s.put tab { s.managers tab with idMappings := kept, phase := .idle } stored)
      | _, _ => none

end Step

/-- Whatever was received after a creation has the server's id wherever the mutation has the
provisional one. -/
def NeverLeaks (s : State ι) : Prop :=
  ∀ received ∈ s.received, ∀ pair ∈ received.created,
    (received.mutation.entityId = pair.1 → received.entityId = pair.2) ∧
      ∀ path, valueAt path received.mutation.payload = some (.string pair.1) →
        valueAt path received.payload = some (.string pair.2)

/-- The mappings lead from a provisional id to an id. -/
def Maps (mappings : List IdMapping) (pair : String × String) : Prop :=
  (getServerId pair.1 mappings).getD pair.1 = pair.2

/-- **The condition.**  The manager that sends a mutation has the mappings of the ids in it,
and its payload is a record if it has any. -/
def Resolvable (s : State ι) : Event ι → Prop
  | .call tab mutation => ∀ pair ∈ s.created,
      (mutation.entityId = pair.1 → Maps (s.managers tab).idMappings pair) ∧
        (Occurs pair.1 mutation.payload →
          if isRecordPayload mutation.payload then Maps (s.managers tab).idMappings pair
          else pair.1 = pair.2)
  | _ => True

section Payload

variable {resolve : String → Option String} {id : String}

theorem resolveItems_eq_map (items : List Json) :
    resolveItems resolve items = items.map (resolveValue resolve) := by
  induction items with
  | nil => rfl
  | cons item items ih => rw [resolveItems, ih, List.map_cons]

theorem get_resolveMembers (key : String) (members : List (String × Json)) :
    Object.get key (resolveMembers resolve members) =
      (Object.get key members).map (resolveValue resolve) := by
  induction members with
  | nil => rfl
  | cons member members ih =>
      rw [resolveMembers, Object.get_cons, Object.get_cons, ih]
      by_cases hkey : member.1 = key
      · rw [if_pos hkey, if_pos hkey]
        rfl
      · rw [if_neg hkey, if_neg hkey]

theorem valueAt_resolveValue (path : List Index) (value : Json) :
    valueAt path (resolveValue resolve value) = (valueAt path value).map (resolveValue resolve) := by
  induction path generalizing value with
  | nil => simp [valueAt]
  | cons index path ih =>
      have hbind : ∀ inner : Option Json,
          (inner.map (resolveValue resolve)).bind (valueAt path) =
            (inner.bind (valueAt path)).map (resolveValue resolve) := by
        intro inner
        cases inner with
        | none => rfl
        | some inner => exact ih inner
      cases value with
      | string text =>
          by_cases hid : isProvisionalId text = true
          · cases index <;> simp [resolveValue, hid, valueAt]
          · cases index <;> simp [resolveValue, hid, valueAt]
      | array items =>
          cases index with
          | item n =>
              rw [resolveValue, valueAt, valueAt, resolveItems_eq_map, List.getElem?_map, hbind]
          | member key => simp [resolveValue, valueAt]
      | object members =>
          cases index with
          | item n => simp [resolveValue, valueAt]
          | member key => rw [resolveValue, valueAt, valueAt, get_resolveMembers, hbind]
      | null => cases index <;> simp [resolveValue, valueAt]
      | bool value => cases index <;> simp [resolveValue, valueAt]
      | number value => cases index <;> simp [resolveValue, valueAt]

theorem valueAt_resolved {path : List Index} {value : Json} (hid : isProvisionalId id = true)
    (h : valueAt path value = some (.string id)) :
    valueAt path (resolveValue resolve value) = some (.string ((resolve id).getD id)) := by
  rw [valueAt_resolveValue, h, Option.map_some, resolveValue, if_pos hid]

end Payload

section Calls

variable {mappings : List IdMapping} {created : List (String × String)} {mutation : Mutation}
  {pair : String × String}

/-- What is received for a mutation leaks exactly if a mapping is missing. -/
theorem receive_resolved (hid : isProvisionalId pair.1 = true) :
    ((mutation.entityId = pair.1 → (receive mappings created mutation).entityId = pair.2) ∧
      ∀ path, valueAt path mutation.payload = some (.string pair.1) →
        valueAt path (receive mappings created mutation).payload = some (.string pair.2)) ↔
    (mutation.entityId = pair.1 → Maps mappings pair) ∧
      (Occurs pair.1 mutation.payload →
        if isRecordPayload mutation.payload then Maps mappings pair else pair.1 = pair.2) := by
  have hentity : mutation.entityId = pair.1 →
      ((receive mappings created mutation).entityId = pair.2 ↔ Maps mappings pair) := by
    intro heq
    simp only [receive, resolveId, heq, if_pos hid, Maps]
  have hpath : ∀ path, valueAt path mutation.payload = some (.string pair.1) →
      (valueAt path (receive mappings created mutation).payload = some (.string pair.2) ↔
        if isRecordPayload mutation.payload then Maps mappings pair else pair.1 = pair.2) := by
    intro path hvalue
    by_cases hrecord : isRecordPayload mutation.payload = true
    · simp only [receive, if_pos hrecord, valueAt_resolved hid hvalue, Option.some.injEq,
        Json.string.injEq, Maps]
    · simp only [receive, if_neg hrecord, hvalue, Option.some.injEq, Json.string.injEq]
  constructor
  · intro h
    refine ⟨fun heq => (hentity heq).1 (h.1 heq), fun hoccurs => ?_⟩
    obtain ⟨path, hvalue⟩ := hoccurs
    exact (hpath path hvalue).1 (h.2 path hvalue)
  · intro h
    refine ⟨fun heq => (hentity heq).2 (h.1 heq), fun path hvalue => ?_⟩
    exact (hpath path hvalue).2 (h.2 ⟨path, hvalue⟩)

end Calls

section Runs

variable [DecidableEq ι] {config : Config} {s t : State ι} {event : Event ι} {tab : ι}
  {mutation : Mutation}

theorem step_call (h : step config s (.call tab mutation) = some t) :
    (s.managers tab).initialized = true ∧ t.created = s.created ∧
      t.received = receive (s.managers tab).idMappings s.created mutation :: s.received := by
  unfold step at h
  grind [State.put]

theorem step_other (hcall : ∀ tab mutation, event ≠ .call tab mutation)
    (h : step config s event = some t) :
    t.received = s.received ∧
      ∀ pair ∈ t.created, pair ∈ s.created ∨ isProvisionalId pair.1 = true := by
  cases event with
  | call tab mutation => exact absurd rfl (hcall tab mutation)
  | ensureInitialized tab now loaded stored =>
      unfold step at h
      grind [State.put]
  | cleanup tab now stored =>
      cases h
      exact ⟨rfl, fun pair hpair => .inl hpair⟩
  | clear tab stored =>
      cases h
      exact ⟨rfl, fun pair hpair => .inl hpair⟩
  | restart tab =>
      cases h
      exact ⟨rfl, fun pair hpair => .inl hpair⟩
  | respond tab serverId now =>
      unfold step at h
      grind [State.put]
  | register tab now stored =>
      unfold step at h
      grind [State.put]

/-- Nothing has leaked, and all that was created has a provisional id. -/
structure Inv (s : State ι) : Prop where
  neverLeaks : NeverLeaks s
  provisional : ∀ pair ∈ s.created, isProvisionalId pair.1 = true

omit [DecidableEq ι] in
theorem Inv.start : Inv ({} : State ι) where
  neverLeaks := fun _ hreceived => absurd hreceived List.not_mem_nil
  provisional := fun _ hpair => absurd hpair List.not_mem_nil

/-- **A step leaks nothing** exactly if it is a resolvable call, or no call. -/
theorem Inv.step_iff (hinv : Inv s) (h : step config s event = some t) :
    NeverLeaks t ↔ Resolvable s event := by
  cases event with
  | call tab mutation =>
      obtain ⟨-, -, hreceived⟩ := step_call h
      have hcall : NeverLeaks t ↔ ∀ pair ∈ s.created,
          (mutation.entityId = pair.1 →
            (receive (s.managers tab).idMappings s.created mutation).entityId = pair.2) ∧
          ∀ path, valueAt path mutation.payload = some (.string pair.1) →
            valueAt path (receive (s.managers tab).idMappings s.created mutation).payload =
              some (.string pair.2) := by
        unfold NeverLeaks
        rw [hreceived, List.forall_mem_cons]
        exact and_iff_left hinv.neverLeaks
      rw [hcall]
      exact forall₂_congr fun pair hpair => receive_resolved (hinv.provisional pair hpair)
  | _ =>
      obtain ⟨hreceived, -⟩ := step_other (by intro tab mutation hcall; cases hcall) h
      have hsame : NeverLeaks t := by
        unfold NeverLeaks
        rw [hreceived]
        exact hinv.neverLeaks
      exact iff_of_true hsame trivial

theorem Inv.step (hinv : Inv s) (hcond : Resolvable s event)
    (h : ProvisionalIds.step config s event = some t) : Inv t := by
  refine ⟨(hinv.step_iff h).2 hcond, ?_⟩
  by_cases hcall : ∃ tab mutation, event = .call tab mutation
  · obtain ⟨tab, mutation, rfl⟩ := hcall
    obtain ⟨-, hcreated, -⟩ := step_call h
    rw [hcreated]
    exact hinv.provisional
  · have hother : ∀ tab mutation, event ≠ .call tab mutation :=
      fun tab mutation heq => hcall ⟨tab, mutation, heq⟩
    intro pair hpair
    obtain hold | hnew := (step_other hother h).2 pair hpair
    · exact hinv.provisional pair hold
    · exact hnew

def createTask : Mutation := ⟨.create, "provisional_1", .object []⟩

def updateTask : Mutation := ⟨.update, "provisional_1", .object []⟩

end Runs

section Mappings

variable {config : Config} {mapping : IdMapping} {mappings : List IdMapping}
  {pair : String × String} {now : Int}

end Mappings

section Kept

variable [DecidableEq ι] {config : Config} {pair : String × String} {s t : State ι}
  {event : Event ι}

end Kept

end ProvisionalIds

end Zentra
