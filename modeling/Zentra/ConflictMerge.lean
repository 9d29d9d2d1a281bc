import Mathlib.Data.List.Basic

/-!
# Merging an update that was made offline

An update that cannot be sent waits in the queue with its payload and the optimistic record
that was shown for it.  When it is replayed and the server reports a newer record, the two
are merged field by field.

* `KeepsEdits` — each side's edits are kept, and a review is asked for if both have changed a
  field;
* `keepsEdits_iff` — exactly when they are: the optimistic record takes the place of the
  record that both sides started from.
-/

namespace Zentra

namespace ConflictMerge

variable {V : Type} [DecidableEq V]

/-- A record: its own fields; values are compared as `isEqual` does. -/
abbrev Record (V : Type) : Type := List (String × V)

/-- The value of a field, if the record has it. -/
def Record.get (field : String) (record : Record V) : Option V := record.lookup field

def Record.keys (record : Record V) : List String := record.map Prod.fst

/-- How arrays are told from other values. -/
structure Arrays (V : Type) where
  items : V → Option (List V)
  array : List V → V

/-- `MergeConfig`; a custom rule gives no value if JSON cannot hold what it returns. -/
structure MergeConfig (V : Type) where
  serverWinsFields : List String := ["id", "createdAt", "tenantId"]
  clientWinsFields : List String := []
  customMerge : String → Option (Option V → Option V → Option V → Option V) := fun _ => none
  concatFields : List String := []
  unionFields : List String := []

structure Merged (V : Type) where
  value : Option V
  merged : Bool := false
  conflicted : Bool := false

/-- Both values of a field, if they are arrays. -/
def bothItems (arrays : Arrays V) (server client : Option V) : Option (List V × List V) :=
  match server.bind arrays.items, client.bind arrays.items with
  | some serverItems, some clientItems => some (serverItems, clientItems)
  | _, _ => none

/-- The items of both sides, the client's only if they are new. -/
def unionItems (serverItems clientItems : List V) : List V :=
  clientItems.foldl (fun combined item => if item ∈ combined then combined else combined ++ [item])
    serverItems

/-- The rule that is configured for a field, if there is one. -/
def configured (arrays : Arrays V) (config : MergeConfig V) (field : String)
    (server client base : Option V) : Option (Merged V) :=
  if field ∈ config.serverWinsFields then some { value := server }
  else if field ∈ config.clientWinsFields then
    some { value := client, merged := decide (server ≠ client) }
  else
    match config.customMerge field with
    | some custom => some { value := custom server client base, merged := true }
    | none =>
        match bothItems arrays server client with
        | none => none
        | some (serverItems, clientItems) =>
            if field ∈ config.concatFields then
              some { value := some (arrays.array (serverItems ++ clientItems)), merged := true }
            else if field ∈ config.unionFields then
              some { value := some (arrays.array (unionItems serverItems clientItems))
                     merged := true }
            else none

def autoMerge (server client base : Option V) : Merged V :=
  if server = client then { value := server }
  else if client = base then { value := server }
  else if server = base then { value := client, merged := true }
  else { value := server, conflicted := true }

/-- The body of the loop of `merge`. -/
def mergeField (arrays : Arrays V) (config : MergeConfig V) (field : String)
    (server client base : Option V) : Merged V :=
  (configured arrays config field server client base).getD (autoMerge server client base)

/-- `CONFLICT_WINNER`. -/
inductive Winner
  | server
  | client
  | merged
  deriving DecidableEq, Repr

/-- `ConflictResult`; a field of the resolved data may have no value. -/
structure ConflictResult (V : Type) where
  resolvedData : List (String × Option V)
  winner : Winner
  requiresReview : Bool
  mergedFields : List String
  conflictedFields : List String

def allKeys (server client : Record V) : List String :=
  server.keys ++ client.keys.filter (· ∉ server.keys)

def merge (arrays : Arrays V) (config : MergeConfig V) (server client base : Record V) :
    ConflictResult V :=
  let outcome := fun field =>
    mergeField arrays config field (server.get field) (client.get field) (base.get field)
  let keys := allKeys server client
  let mergedFields := keys.filter fun field => (outcome field).merged
  let conflictedFields := keys.filter fun field => (outcome field).conflicted
  { resolvedData := keys.map fun field => (field, (outcome field).value)
    winner := if conflictedFields ≠ [] ∨ mergedFields ≠ [] then .merged else .server
    requiresReview := decide (conflictedFields ≠ [])
    mergedFields := mergedFields
    conflictedFields := conflictedFields }

/-- `MutationQueueEntry` of an update: what its replay reads. -/
structure UpdateEntry (V : Type) where
  payload : Record V
  optimisticData : Record V
  timestamp : Int

/-- `mutationFn` of `useDLUpdate`, offline: the optimistic record is made from the variables
and the cached record. -/
def useDLUpdate (onOptimistic : Record V → Option (Record V) → Record V) (vars : Record V)
    (currentData : Option (Record V)) (now : Int) : UpdateEntry V :=
  { payload := vars, optimisticData := onOptimistic vars currentData, timestamp := now }

/-- `isEqual` of two records. -/
def sameRecord (a b : Record V) : Prop := ∀ field ∈ a.keys ++ b.keys, a.get field = b.get field

instance (a b : Record V) : Decidable (sameRecord a b) :=
  inferInstanceAs (Decidable (∀ field ∈ a.keys ++ b.keys, _))

def hasConflict (serverData clientData : Record V) (serverTimestamp clientTimestamp : Int) :
    Bool :=
  if serverTimestamp = clientTimestamp then false
  else if sameRecord serverData clientData then false
  else decide (clientTimestamp < serverTimestamp)

/-- What becomes of an update when the server has refused it and reported its record. -/
inductive Replayed (V : Type)
  | failed (error : String)
  | requeued (payload : Record V) (requiresReview : Bool)

/-- `tryToJsonSerializable` of the resolved data: every field has a value. -/
def serializable (resolvedData : List (String × Option V)) : Option (Record V) :=
  resolvedData.mapM fun member => member.2.map fun value => (member.1, value)

/-- The branch of `processMutation` for conflicts; `baseData` is the optimistic record. -/
def replay (arrays : Arrays V) (config : MergeConfig V) (entry : UpdateEntry V)
    (serverData : Record V) (serverTimestamp : Int) (error : Option String) : Replayed V :=
  if hasConflict serverData entry.payload serverTimestamp entry.timestamp then
    let result := merge arrays config serverData entry.payload entry.optimisticData
    match serializable result.resolvedData with
    | some payload => .requeued payload result.requiresReview
    | none => .failed "Conflict resolution produced non-serializable payload"
  else .failed (error.getD "Unknown error")

section Edits

variable (arrays : Arrays V) (config : MergeConfig V) (prev : Option (Record V))
  (vars server optimistic : Record V)

/-- The value of a field in the record that both sides started from. -/
def previous (field : String) : Option V := prev.bind fun record => record.get field

/-- The payload has changed a field. -/
def ClientChanged (field : String) : Prop :=
  vars.get field ≠ none ∧ vars.get field ≠ previous prev field

def ServerChanged (field : String) : Prop := server.get field ≠ previous prev field

/-- No configured rule applies to a field. -/
def Unconfigured (field : String) : Prop :=
  configured arrays config field (server.get field) (vars.get field) none = none

/-- What an update comes to: it is queued again, with the client's value of every field that
only the client has changed, the server's of every field that only the server has, and for
review if both have changed a field without a rule to different values. -/
def KeepsEdits (outcome : Replayed V) : Prop :=
  ∃ payload review, outcome = .requeued payload review ∧
    (∀ field, ClientChanged prev vars field → ¬ ServerChanged prev server field →
      payload.get field = vars.get field) ∧
    (∀ field, ServerChanged prev server field → ¬ ClientChanged prev vars field →
      payload.get field = server.get field) ∧
    (review = true ↔ ∃ field, Unconfigured arrays config vars server field ∧
      ClientChanged prev vars field ∧ ServerChanged prev server field ∧
        server.get field ≠ vars.get field)

/-- A rule gives a value, and that of a side which alone has changed the field. -/
def RuleKeeps (field : String) (rule : Merged V) : Prop :=
  rule.value ≠ none ∧
    (ClientChanged prev vars field → ¬ ServerChanged prev server field →
      rule.value = vars.get field) ∧
    (ServerChanged prev server field → ¬ ClientChanged prev vars field →
      rule.value = server.get field)

/-- Where the values of the server and the payload differ, the optimistic record has the
server's value only if the client has changed the field; and if it has another, the server
has the field, and has changed it if the payload has it too. -/
def AutoKeeps (field : String) : Prop :=
  server.get field ≠ vars.get field →
    if optimistic.get field = server.get field then ClientChanged prev vars field
    else server.get field ≠ none ∧ (vars.get field ≠ none → ServerChanged prev server field)

/-- **The condition.** Every field of the two records keeps its edits, and three different
values of a field stand for different changes of both sides. -/
structure Mergeable : Prop where
  fields : ∀ field ∈ allKeys server vars,
    (configured arrays config field (server.get field) (vars.get field)
      (optimistic.get field)).elim (AutoKeeps prev vars server optimistic field)
        (RuleKeeps prev vars server field)
  review : (∃ field, Unconfigured arrays config vars server field ∧
      server.get field ≠ vars.get field ∧ vars.get field ≠ optimistic.get field ∧
        server.get field ≠ optimistic.get field) ↔
    ∃ field, Unconfigured arrays config vars server field ∧
      ClientChanged prev vars field ∧ ServerChanged prev server field ∧
        server.get field ≠ vars.get field

end Edits

section Requeued

variable {server client base : Record V} {field : String}

omit [DecidableEq V] in
theorem get_eq_none {record : Record V} : record.get field = none ↔ field ∉ record.keys := by
  unfold Record.get Record.keys
  induction record with
  | nil => simp
  | cons member record ih =>
      rw [List.lookup_cons]
      by_cases hfield : field = member.1
      · simp [hfield]
      · have hne : (field == member.1) = false := by simpa using hfield
        rw [hne]
        simp [hfield, ih]

omit [DecidableEq V] in
theorem mem_allKeys :
    field ∈ allKeys server client ↔ server.get field ≠ none ∨ client.get field ≠ none := by
  unfold allKeys
  rw [Ne, Ne, get_eq_none, get_eq_none, not_not, not_not, List.mem_append, List.mem_filter]
  by_cases hserver : field ∈ server.keys
  · simp [hserver]
  · simp [hserver]

omit [DecidableEq V] in
/-- The data are serializable if every field has a value. -/
theorem exists_serializable {keys : List String} {value : String → Option V} :
    (∃ payload, serializable (keys.map fun key => (key, value key)) = some payload) ↔
      ∀ key ∈ keys, value key ≠ none := by
  induction keys with
  | nil => simp [serializable]
  | cons key keys ih =>
      unfold serializable at ih ⊢
      rw [List.map_cons, List.mapM_cons]
      cases hvalue : value key with
      | none => simp [hvalue]
      | some v =>
          simp only [Option.map_some, Option.bind_eq_bind, Option.bind_some, List.mem_cons,
            forall_eq_or_imp, hvalue, ne_eq, reduceCtorEq, not_false_eq_true, true_and]
          rw [← ih]
          constructor
          · intro hsome
            obtain ⟨payload, hpayload⟩ := hsome
            obtain ⟨rest, hrest, -⟩ := Option.bind_eq_some_iff.1 hpayload
            exact ⟨rest, hrest⟩
          · intro hsome
            obtain ⟨rest, hrest⟩ := hsome
            exact ⟨(key, v) :: rest, Option.bind_eq_some_iff.2 ⟨rest, hrest, rfl⟩⟩

omit [DecidableEq V] in
theorem get_serializable {keys : List String} {value : String → Option V} {payload : Record V}
    (h : serializable (keys.map fun key => (key, value key)) = some payload) :
    payload.get field = if field ∈ keys then value field else none := by
  induction keys generalizing payload with
  | nil =>
      have hempty : payload = [] := by simpa [serializable] using h.symm
      rw [hempty]
      rfl
  | cons key keys ih =>
      unfold serializable at ih h
      rw [List.map_cons, List.mapM_cons] at h
      cases hvalue : value key with
      | none => simp [hvalue] at h
      | some v =>
          simp only [hvalue, Option.map_some, Option.bind_eq_bind, Option.bind_some] at h
          obtain ⟨rest, hrest, hpayload⟩ := Option.bind_eq_some_iff.1 h
          have hcons : payload = (key, v) :: rest := (Option.some.inj hpayload).symm
          rw [hcons, Record.get, List.lookup_cons]
          by_cases hfield : field = key
          · simp [hfield, hvalue]
          · have hne : (field == key) = false := by simpa using hfield
            have hget := ih hrest
            rw [Record.get] at hget
            rw [hne]
            simpa [hfield] using hget

end Requeued

section Fields

variable {arrays : Arrays V} {config : MergeConfig V} {prev : Option (Record V)}
  {vars server optimistic : Record V} {field : String}

theorem configured_eq_none {server client base : Option V}
    (base' : Option V) (h : configured arrays config field server client base = none) :
    configured arrays config field server client base' = none := by
  unfold configured at h ⊢
  cases hcustom : config.customMerge field <;> grind

/-- Without a rule, a field has a value and keeps its edits exactly if the optimistic value
does its part. -/
theorem autoMerge_keeps (hkey : field ∈ allKeys server vars) :
    RuleKeeps prev vars server field
        (autoMerge (server.get field) (vars.get field) (optimistic.get field)) ↔
      AutoKeeps prev vars server optimistic field := by
  rw [mem_allKeys] at hkey
  unfold RuleKeeps AutoKeeps autoMerge ClientChanged ServerChanged
  grind

theorem mergeField_keeps (hkey : field ∈ allKeys server vars) :
    RuleKeeps prev vars server field
        (mergeField arrays config field (server.get field) (vars.get field)
          (optimistic.get field)) ↔
      (configured arrays config field (server.get field) (vars.get field)
        (optimistic.get field)).elim (AutoKeeps prev vars server optimistic field)
          (RuleKeeps prev vars server field) := by
  unfold mergeField
  cases configured arrays config field (server.get field) (vars.get field)
      (optimistic.get field) with
  | none => exact autoMerge_keeps hkey
  | some rule => exact Iff.rfl

theorem configured_not_conflicted {server client base : Option V} {rule : Merged V}
    (h : configured arrays config field server client base = some rule) :
    rule.conflicted = false := by
  unfold configured at h
  cases hcustom : config.customMerge field <;> grind

/-- A field is reported as a conflict exactly if no rule is configured for it and the three
values differ. -/
theorem mergeField_conflicted :
    (mergeField arrays config field (server.get field) (vars.get field)
        (optimistic.get field)).conflicted = true ↔
      Unconfigured arrays config vars server field ∧ server.get field ≠ vars.get field ∧
        vars.get field ≠ optimistic.get field ∧ server.get field ≠ optimistic.get field := by
  unfold mergeField Unconfigured
  cases hrule : configured arrays config field (server.get field) (vars.get field)
      (optimistic.get field) with
  | none =>
      have hnone := configured_eq_none none hrule
      simp only [hnone, Option.getD_none, true_and]
      unfold autoMerge
      grind
  | some rule =>
      have hne : configured arrays config field (server.get field) (vars.get field) none ≠ none :=
        fun hnone => by
          have hsame := configured_eq_none (optimistic.get field) hnone
          rw [hrule] at hsame
          cases hsame
      simp [configured_not_conflicted hrule, hne]

end Fields

section Update

variable {arrays : Arrays V} {config : MergeConfig V} {prev : Option (Record V)}
  {vars server optimistic payload : Record V} {review : Bool}

/-- The value of a field after the merge of an update with the server's record. -/
def resolved (arrays : Arrays V) (config : MergeConfig V) (vars server optimistic : Record V)
    (field : String) : Merged V :=
  mergeField arrays config field (server.get field) (vars.get field) (optimistic.get field)

theorem requiresReview_iff :
    (merge arrays config server vars optimistic).requiresReview = true ↔
      ∃ field, Unconfigured arrays config vars server field ∧
        server.get field ≠ vars.get field ∧ vars.get field ≠ optimistic.get field ∧
          server.get field ≠ optimistic.get field := by
  have hfields : (merge arrays config server vars optimistic).requiresReview = true ↔
      ∃ field ∈ allKeys server vars,
        (resolved arrays config vars server optimistic field).conflicted = true := by
    simp [merge, resolved]
  rw [hfields]
  constructor
  · intro hfield
    obtain ⟨field, -, hconflicted⟩ := hfield
    exact ⟨field, mergeField_conflicted.1 hconflicted⟩
  · intro hfield
    obtain ⟨field, hconflicted⟩ := hfield
    have hkey : field ∈ allKeys server vars := mem_allKeys.2 (by grind)
    exact ⟨field, hkey, mergeField_conflicted.2 hconflicted⟩

theorem replay_eq_requeued {entry : UpdateEntry V} {serverTimestamp : Int}
    {error : Option String}
    (hconflict : hasConflict server entry.payload serverTimestamp entry.timestamp = true) :
    replay arrays config entry server serverTimestamp error = .requeued payload review ↔
      serializable ((allKeys server entry.payload).map fun field =>
          (field, (resolved arrays config entry.payload server entry.optimisticData field).value))
        = some payload ∧
      (merge arrays config server entry.payload entry.optimisticData).requiresReview = review := by
  have hdata : (merge arrays config server entry.payload entry.optimisticData).resolvedData =
      (allKeys server entry.payload).map fun field =>
        (field, (resolved arrays config entry.payload server entry.optimisticData field).value) :=
    rfl
  unfold replay
  rw [if_pos hconflict, ← hdata]
  cases hresolved : serializable
      (merge arrays config server entry.payload entry.optimisticData).resolvedData with
  | none => simp [hresolved]
  | some resolvedPayload => simp [hresolved]

/-- The three parts about fields say that every rule keeps its edits. -/
theorem edits_iff_rules
    (hpayload : serializable ((allKeys server vars).map fun field =>
        (field, (resolved arrays config vars server optimistic field).value)) = some payload) :
    ((∀ field, ClientChanged prev vars field → ¬ ServerChanged prev server field →
        payload.get field = vars.get field) ∧
      ∀ field, ServerChanged prev server field → ¬ ClientChanged prev vars field →
        payload.get field = server.get field) ↔
    ∀ field ∈ allKeys server vars,
      RuleKeeps prev vars server field (resolved arrays config vars server optimistic field) := by
  have hvalues := exists_serializable.1 ⟨payload, hpayload⟩
  constructor
  · intro hedits field hkey
    have hget : payload.get field =
        (resolved arrays config vars server optimistic field).value := by
      rw [get_serializable hpayload, if_pos hkey]
    rw [RuleKeeps, ← hget]
    exact ⟨hget ▸ hvalues field hkey, hedits.1 field, hedits.2 field⟩
  · intro hrules
    constructor
    · intro field hclient hserver
      have hkey : field ∈ allKeys server vars := mem_allKeys.2 (.inr hclient.1)
      rw [get_serializable hpayload, if_pos hkey]
      exact (hrules field hkey).2.1 hclient hserver
    · intro field hserver hclient
      rw [get_serializable hpayload]
      by_cases hkey : field ∈ allKeys server vars
      · rw [if_pos hkey]
        exact (hrules field hkey).2.2 hserver hclient
      · have hnone : server.get field = none := by
          rw [mem_allKeys] at hkey
          grind
        rw [if_neg hkey, hnone]

/-- **When a merge keeps the edits.**  An update that was made offline is queued again with
the edits of both sides exactly if it is mergeable over its optimistic record. -/
theorem keepsEdits_iff (arrays : Arrays V) (config : MergeConfig V)
    (onOptimistic : Record V → Option (Record V) → Record V) (vars : Record V)
    (prev : Option (Record V)) (server : Record V) (now serverTimestamp : Int)
    (error : Option String)
    (hconflict : hasConflict server vars serverTimestamp now = true) :
    KeepsEdits arrays config prev vars server
        (replay arrays config (useDLUpdate onOptimistic vars prev now) server serverTimestamp
          error) ↔
      Mergeable arrays config prev vars server (onOptimistic vars prev) := by
  constructor
  · intro hkeeps
    obtain ⟨payload, review, houtcome, hclient, hserver, hreview⟩ := hkeeps
    obtain ⟨hpayload, hrequires⟩ := (replay_eq_requeued hconflict).1 houtcome
    constructor
    · intro field hkey
      exact (mergeField_keeps hkey).1 ((edits_iff_rules hpayload).1 ⟨hclient, hserver⟩ field hkey)
    · rw [← hreview, ← hrequires]
      exact requiresReview_iff.symm
  · intro hmergeable
    have hrules : ∀ field ∈ allKeys server vars, RuleKeeps prev vars server field
        (resolved arrays config vars server (onOptimistic vars prev) field) :=
      fun field hkey => (mergeField_keeps hkey).2 (hmergeable.fields field hkey)
    obtain ⟨payload, hpayload⟩ := exists_serializable.2 fun field hkey => (hrules field hkey).1
    obtain ⟨hclient, hserver⟩ := (edits_iff_rules hpayload).2 hrules
    exact ⟨payload, _, (replay_eq_requeued hconflict).2 ⟨hpayload, rfl⟩, hclient, hserver,
      requiresReview_iff.trans hmergeable.review⟩

/-- A queued update of a task of which only the server has changed a field. -/
theorem keepsEdits_read :
    let prev : Record String := [("id", "7"), ("name", "plan")]
    let server : Record String := [("id", "7"), ("name", "draft")]
    hasConflict server prev 20 10 = true ∧
      (KeepsEdits { items := fun _ => none, array := fun _ => "" } {} (some prev) prev server
          (replay { items := fun _ => none, array := fun _ => "" } {}
            (useDLUpdate (fun vars _ => vars) prev (some prev) 10) server 20 none) ↔
        Mergeable { items := fun _ => none, array := fun _ => "" } {} (some prev) prev server
          prev) :=
  ⟨by decide, keepsEdits_iff _ _ (fun vars _ => vars) _ _ _ _ _ _ (by decide)⟩

/-- `onOptimistic` as the hook's callers write it: `{ ...currentData, ...variables }`. -/
def spread (vars : Record V) (currentData : Option (Record V)) : Record V :=
  vars ++ (currentData.getD []).filter fun member => member.1 ∉ vars.keys

/-- **A rename is lost.**  The client renames a task while the server changes its owner; the
payload that is queued again has the old name. -/
theorem renamed_is_lost :
    ∃ prev vars server : Record String,
      hasConflict server vars 20 10 = true ∧
        ¬ KeepsEdits { items := fun _ => none, array := fun _ => "" } {} (some prev) vars server
          (replay { items := fun _ => none, array := fun _ => "" } {}
            (useDLUpdate spread vars (some prev) 10) server 20 none) := by
  refine ⟨[("id", "7"), ("name", "old"), ("owner", "ann")],
    [("id", "7"), ("name", "new"), ("owner", "ann")],
    [("id", "7"), ("name", "old"), ("owner", "bob")], by decide, ?_⟩
  intro hkeeps
  obtain ⟨payload, review, houtcome, hclient, -, -⟩ := hkeeps
  have hname := hclient "name" (by unfold ClientChanged; decide) (by unfold ServerChanged; decide)
  have hpayload : payload = [("id", "7"), ("name", "old"), ("owner", "bob")] := by
    have hreplay : replay { items := fun _ => none, array := fun _ => "" } {}
        (useDLUpdate spread [("id", "7"), ("name", "new"), ("owner", "ann")]
          (some [("id", "7"), ("name", "old"), ("owner", "ann")]) 10)
        [("id", "7"), ("name", "old"), ("owner", "bob")] 20 none =
      .requeued [("id", "7"), ("name", "old"), ("owner", "bob")] false := by rfl
    rw [hreplay] at houtcome
    cases houtcome
    rfl
  rw [hpayload] at hname
  exact absurd hname (by decide)

end Update

end ConflictMerge

end Zentra
