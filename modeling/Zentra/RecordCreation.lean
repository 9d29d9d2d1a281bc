import Zentra.OptimisticUpdates

/-!
# Creating a record online

`useDLCreate` puts an optimistic record into the list cache and into the offline cache, asks the
server for the real one, and then rewrites both caches through a strict conversion to JSON.

* `isJsonSerializable` — what the conversion lets through;
* `consistent_iff` — when the caches and the promise agree with the server.
-/

namespace Zentra

namespace DataLayer

inductive JsKind
  | function
  | symbol
  | bigint
  | date
  | map
  | set
  | classInstance
  deriving DecidableEq, Repr

/-- A value of the program; the members of a plain object are in their order. -/
inductive JsValue
  | null
  | undefined
  | boolean (value : Bool)
  | number (value : Float)
  | string (value : String)
  | array (items : List JsValue)
  | object (members : List (String × JsValue))
  | other (kind : JsKind)

abbrev Record := List (String × JsValue)

mutual

def isJsonSerializable : JsValue → Bool
  | .null => true
  | .undefined => false
  | .boolean _ => true
  | .number _ => true
  | .string _ => true
  | .array items => everySerializable items
  | .object members => everyMemberSerializable members
  | .other _ => false

/-- `value.every(isJsonSerializable)`. -/
def everySerializable : List JsValue → Bool
  | [] => true
  | item :: items => isJsonSerializable item && everySerializable items

/-- `Object.values(value).every(isJsonSerializable)`. -/
def everyMemberSerializable : List (String × JsValue) → Bool
  | [] => true
  | member :: members => isJsonSerializable member.2 && everyMemberSerializable members

end

/-- The reason of a `JsonSerializationError`. -/
def serializationReason : JsValue → String
  | .undefined => "undefined cannot be serialized (use null instead)"
  | .other .function => "Functions cannot be serialized"
  | .other .symbol => "Symbols cannot be serialized"
  | .other .bigint => "BigInt cannot be serialized (convert to string first)"
  | .other .date => "Date objects cannot be serialized (use .toISOString())"
  | .other .map => "Map cannot be serialized (convert to Object first)"
  | .other .set => "Set cannot be serialized (convert to Array first)"
  | _ => "Value contains non-serializable data"

inductive CreateError
  /-- a `JsonSerializationError` with its message -/
  | serialization (message : String)
  /-- what the call of the server has thrown -/
  | server (message : String)
  deriving DecidableEq, Repr

def toJsonSerializable (value : JsValue) : Except CreateError JsValue :=
  if isJsonSerializable value then .ok value
  else .error (.serialization ("Value is not JSON-serializable: " ++ serializationReason value))

/-- A member of an object literal, after what was spread into it. -/
def Record.withMember (record : Record) (key : String) (value : JsValue) : Record :=
  if record.any fun member => member.1 = key then
    record.map fun member => if member.1 = key then (key, value) else member
  else record ++ [(key, value)]

def Record.get (record : Record) (key : String) : JsValue :=
  ((record.find? fun member => member.1 = key).map Prod.snd).getD .undefined

/-- `getResultEntityId`. -/
def getResultEntityId : JsValue → Option String
  | .object members =>
      match Record.get members "id" with
      | .string id => some id
      | _ => none
  | _ => none

/-- The ids of the records of a list.  One that is no string matches no entity, and stands
here as the empty one. -/
def recordIds : ItemIds Record where
  id record := (getResultEntityId (.object record)).getD ""
  withId record id := record.withMember "id" (.string id)

/-- A `QueryCacheEntry`: what the hook says of it. -/
structure QueryCacheEntry where
  tableName : String
  data : JsValue
  isOfflineData : Bool

/-- The list cache and the offline cache, which has its entries under the hashes of their
keys. -/
structure Caches where
  client : QueryClient Record
  queries : String → Option QueryCacheEntry

/-- A call of the mutation online: what the hook is given, the optimistic record of the
variables, what the server makes of them, and whether the hook had queued a mutation
before. -/
structure CreateCall where
  table : String
  listQueryKey : Option QueryKey
  optimisticData : Record
  server : Except String JsValue
  provisionalId : String
  createdLocallyAt : Float
  isQueued : Bool := false

/-- How the call has ended: the promise, the caches, and whether the server was asked. -/
structure CreateRun where
  outcome : Except CreateError JsValue
  caches : Caches
  asked : Bool

namespace CreateCall

variable (hashQueryKey : QueryKey → String) (call : CreateCall)

def cacheKey (id : String) : String := hashQueryKey [call.table, id]

def optimisticWithId : Record :=
  (((call.optimisticData.withMember "id" (.string call.provisionalId)).withMember
    "_isPendingSync" (.boolean true)).withMember
    "_provisionalId" (.string call.provisionalId)).withMember
    "_createdLocallyAt" (.number call.createdLocallyAt)

/-- The list cache with the optimistic record. -/
def optimisticClient (client : QueryClient Record) : QueryClient Record :=
  match call.listQueryKey with
  | none => client
  | some key => (optimisticAddToList recordIds key call.optimisticWithId client).1

/-- The record that replaces the optimistic one. -/
def finalData (result : JsValue) : Record :=
  let members := match result with
    | .object members => members
    | _ => []
  ((Record.withMember members "_isPendingSync" (.boolean false)).withMember
    "_provisionalId" .undefined).withMember "_createdLocallyAt" .undefined

def executeOnline (caches : Caches) : CreateRun :=
  match call.server with
  | .error message => { outcome := .error (.server message), caches, asked := true }
  | .ok result =>
      let serverId := (getResultEntityId result).getD call.provisionalId
      if serverId = call.provisionalId then { outcome := .ok result, caches, asked := true }
      else
        match toJsonSerializable (.object (finalData result)) with
        | .error error => { outcome := .error error, caches, asked := true }
        | .ok data =>
            let queries := Function.update caches.queries (call.cacheKey hashQueryKey serverId)
              (some { tableName := call.table, data, isOfflineData := false })
            let client := match call.listQueryKey with
              | none => caches.client
              | some key => updateQueryData .list key (ListUpdate.updater recordIds
                  (replaceId recordIds call.provisionalId serverId)) caches.client
            { outcome := .ok result
              caches :=
                { client
                  queries := Function.update queries
                    (call.cacheKey hashQueryKey call.provisionalId) none }
              asked := true }

/-- `mutationFn`, when the client is online. -/
def mutationFn (caches : Caches) : CreateRun :=
  let client := call.optimisticClient caches.client
  match toJsonSerializable (.object call.optimisticWithId) with
  | .error error => { outcome := .error error, caches := { caches with client }, asked := false }
  | .ok data => call.executeOnline hashQueryKey
      { client
        queries := Function.update caches.queries (call.cacheKey hashQueryKey call.provisionalId)
          (some { tableName := call.table, data, isOfflineData := true }) }

/-- The mutation with its `onError`: what is stored under the provisional id is deleted, unless
a mutation is queued, which `executeLocalFirstMutation` takes back; the `rollbackFn` does
nothing. -/
def run (caches : Caches) : CreateRun :=
  let ended := call.mutationFn hashQueryKey caches
  match ended.outcome with
  | .ok _ => ended
  | .error _ =>
      if call.isQueued ∧ ¬ ended.asked then ended
      else
        { ended with
          caches :=
            { client := handleError false {} ended.caches.client
              queries := Function.update ended.caches.queries
                (call.cacheKey hashQueryKey call.provisionalId) none } }

/-- **Caches and promise agree with the server**, once it has been asked. -/
structure Consistent (caches : Caches) (run : CreateRun) : Prop where
  succeeded : run.asked = true → ∀ result serverId, call.server = .ok result →
    getResultEntityId result = some serverId →
      run.outcome = .ok result ∧
      (run.caches.queries (call.cacheKey hashQueryKey serverId)).isSome ∧
      run.caches.queries (call.cacheKey hashQueryKey call.provisionalId) = none ∧
      ∀ key ∈ call.listQueryKey, ∃ records, run.caches.client .list key = some records ∧
        (records.map recordIds.id).count serverId = 1
  failed : run.asked = true → ∀ message, call.server = .error message → run.caches = caches

variable {hashQueryKey} {call} {caches : Caches}

theorem mem_withMember (record : Record) (key : String) (value : JsValue) :
    (key, value) ∈ record.withMember key value := by
  unfold Record.withMember
  split
  next hany =>
    obtain ⟨member, hmember, hkey⟩ := List.any_eq_true.1 hany
    exact List.mem_map.2 ⟨member, hmember, if_pos (by simpa using hkey)⟩
  next => exact List.mem_append_right _ (List.mem_singleton_self _)

/-- **A member that is `undefined`** keeps an object from being JSON. -/
theorem not_serializable_of_undefined {key : String} {record : Record}
    (h : (key, .undefined) ∈ record) : isJsonSerializable (.object record) = false := by
  rw [isJsonSerializable]
  induction record with
  | nil => exact absurd h List.not_mem_nil
  | cons member members ih =>
      rw [everyMemberSerializable]
      obtain rfl | h := List.mem_cons.1 h
      · rfl
      · rw [ih h, Bool.and_false]

theorem finalData_fails (result : JsValue) :
    ∃ error, toJsonSerializable (.object (finalData result)) = .error error := by
  have hundefined : isJsonSerializable (.object (finalData result)) = false :=
    not_serializable_of_undefined (mem_withMember _ "_createdLocallyAt" .undefined)
  exact ⟨_, if_neg (by rw [hundefined]; exact Bool.false_ne_true)⟩

theorem mutationFn_of_serializable
    (h : isJsonSerializable (.object call.optimisticWithId) = true) :
    call.mutationFn hashQueryKey caches = call.executeOnline hashQueryKey
      { client := call.optimisticClient caches.client
        queries := Function.update caches.queries (call.cacheKey hashQueryKey call.provisionalId)
          (some { tableName := call.table, data := .object call.optimisticWithId
                  isOfflineData := true }) } := by
  rw [mutationFn, toJsonSerializable, if_pos h]

theorem asked_of_run (h : (call.run hashQueryKey caches).asked = true) :
    isJsonSerializable (.object call.optimisticWithId) = true := by
  by_contra hnot
  rw [run, mutationFn, toJsonSerializable, if_neg hnot] at h
  dsimp only at h
  split at h
  · cases h
  · cases h

theorem run_of_error {message : String} (hserver : call.server = .error message)
    (h : isJsonSerializable (.object call.optimisticWithId) = true) :
    call.run hashQueryKey caches =
      { outcome := .error (.server message)
        caches :=
          { client := call.optimisticClient caches.client
            queries := Function.update caches.queries
              (call.cacheKey hashQueryKey call.provisionalId) none }
        asked := true } := by
  rw [run, mutationFn_of_serializable h, executeOnline, hserver]
  simp [handleError]

/-- **No success.** The promise is rejected, or the optimistic record stays where it was
stored. -/
theorem run_of_ok {result : JsValue} (hserver : call.server = .ok result)
    (h : isJsonSerializable (.object call.optimisticWithId) = true) :
    (call.run hashQueryKey caches).asked = true ∧
      ((call.run hashQueryKey caches).outcome ≠ .ok result ∨
        (call.run hashQueryKey caches).caches.queries
          (call.cacheKey hashQueryKey call.provisionalId) ≠ none) := by
  obtain ⟨error, hfails⟩ := finalData_fails result
  by_cases hid : (getResultEntityId result).getD call.provisionalId = call.provisionalId
  · simp [run, mutationFn_of_serializable h, executeOnline, hserver, hid]
  · simp [run, mutationFn_of_serializable h, executeOnline, hserver, hid, hfails]

theorem optimisticClient_eq_iff :
    call.optimisticClient caches.client = caches.client ↔ call.listQueryKey = none := by
  unfold optimisticClient
  cases hkey : call.listQueryKey with
  | none => simp
  | some key =>
      refine iff_of_false (fun hsame => ?_) (by simp)
      have hlist := congrFun (congrFun hsame .list) key
      simp only [optimisticAddToList, optimistically, updateQueryData_self] at hlist
      cases hold : caches.client .list key with
      | none =>
          rw [hold] at hlist
          cases hlist
      | some old =>
          rw [hold] at hlist
          have hlength := congrArg List.length (Option.some.inj hlist)
          rw [List.length_append] at hlength
          exact absurd hlength (Nat.succ_ne_self _)

/-- **Exact condition.**  Caches and promise agree with the server just if it fails, there is
no list cache to take the record back from, and nothing was stored under the provisional id;
or if it is never asked, since the optimistic record is not JSON. -/
theorem consistent_iff
    (hresult : ∀ result, call.server = .ok result → (getResultEntityId result).isSome) :
    call.Consistent hashQueryKey caches (call.run hashQueryKey caches) ↔
      (isJsonSerializable (.object call.optimisticWithId) = true →
        (∃ message, call.server = .error message) ∧ call.listQueryKey = none ∧
          caches.queries (call.cacheKey hashQueryKey call.provisionalId) = none) := by
  constructor
  · intro hconsistent hjson
    cases hserver : call.server with
    | ok result =>
        obtain ⟨serverId, hid⟩ := Option.isSome_iff_exists.1 (hresult result hserver)
        obtain ⟨hasked, hends⟩ := @run_of_ok hashQueryKey call caches result hserver hjson
        obtain ⟨houtcome, -, hprovisional, -⟩ :=
          hconsistent.succeeded hasked result serverId hserver hid
        obtain hends | hends := hends
        · exact absurd houtcome hends
        · exact absurd hprovisional hends
    | error message =>
        have hrun := @run_of_error hashQueryKey call caches message hserver hjson
        have hrestored := hconsistent.failed (by rw [hrun]) message hserver
        rw [hrun] at hrestored
        have hclient := congrArg Caches.client hrestored
        have hqueries := congrFun (congrArg Caches.queries hrestored)
          (call.cacheKey hashQueryKey call.provisionalId)
        refine ⟨⟨message, rfl⟩, optimisticClient_eq_iff.1 hclient, hqueries.symm.trans ?_⟩
        exact Function.update_self ..
  · intro hcondition
    refine ⟨fun hasked result serverId hserver _ => ?_, fun hasked message hserver => ?_⟩
    · obtain ⟨⟨message, hfailed⟩, -⟩ := hcondition (asked_of_run hasked)
      rw [hserver] at hfailed
      cases hfailed
    · have hjson := asked_of_run hasked
      obtain ⟨-, hkey, hfree⟩ := hcondition hjson
      rw [run_of_error hserver hjson, optimisticClient_eq_iff.2 hkey, ← hfree,
        Function.update_eq_self]

/-- A record without a list, with an answer of the server. -/
def draftCall (server : Except String JsValue) : CreateCall where
  table := "drafts"
  listQueryKey := none
  optimisticData := [("title", .string "Layoffs")]
  server := server
  provisionalId := "prov_1"
  createdLocallyAt := 0

def noCaches : Caches where
  client := fun _ _ => none
  queries := fun _ => none

/-- A refused record leaves nothing. -/
theorem refusedDraft_consistent : (draftCall (.error "403")).Consistent "/".intercalate noCaches
    ((draftCall (.error "403")).run "/".intercalate noCaches) :=
  (consistent_iff fun _ h => by cases h).2 fun _ => ⟨⟨_, rfl⟩, rfl, rfl⟩

/-- **A record that the server has created** is rejected. -/
theorem createdDraft_rejected : ¬ ∀ (call : CreateCall) caches,
    (∀ result, call.server = .ok result → (getResultEntityId result).isSome) →
      call.Consistent "/".intercalate caches (call.run "/".intercalate caches) := by
  intro hall
  have hconsistent := hall (draftCall (.ok (.object [("id", .string "d7")]))) noCaches
    fun result h => by cases h; rfl
  obtain ⟨houtcome, -⟩ := hconsistent.succeeded rfl _ "d7" rfl rfl
  cases houtcome

end CreateCall

end DataLayer

end Zentra
