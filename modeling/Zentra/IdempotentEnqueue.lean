import Zentra.StepTrace
import Zentra.TableLocks

/-!
# Enqueueing a mutation once

A call that queues a mutation may name an idempotency key.  The queue is then searched for an
entry under that key before a new one is added; the entry that is added is stored under a key
of its own, made from what it contains.

* `Coincides` — a search finds what was queued with its key, and nothing that was queued with
  it is there when an entry is added;
* `idempotent_iff_coincides` — exactly the runs whose steps coincide are idempotent.
-/

open StepTrace

namespace Zentra

namespace IdempotentEnqueue

/-- `simpleHash`: djb2 over the code units, as eight hexadecimal digits. -/
def simpleHash (text : String) : String :=
  let hash := (text.toList.flatMap TableLocking.codeUnits).foldl
    (fun hash unit => (hash * 33#32) ^^^ BitVec.ofNat 32 unit) 5381#32
  let digits := Nat.toDigits 16 hash.toNat
  String.ofList (List.replicate (8 - digits.length) '0' ++ digits)

def escape (c : Char) : String :=
  if c = '"' then "\\\""
  else if c = '\\' then "\\\\"
  else if c = '\n' then "\\n"
  else if c = '\r' then "\\r"
  else if c = '\t' then "\\t"
  else if c.toNat = 8 then "\\b"
  else if c.toNat = 12 then "\\f"
  else if c.toNat < 16 then "\\u000" ++ String.ofList (Nat.toDigits 16 c.toNat)
  else if c.toNat < 32 then "\\u00" ++ String.ofList (Nat.toDigits 16 c.toNat)
  else String.singleton c

/-- `JSON.stringify` of a string. -/
def quote (text : String) : String := "\"" ++ String.join (text.toList.map escape) ++ "\""

inductive MutationType
  | create
  | update
  | delete
  deriving DecidableEq, Repr

def MutationType.text : MutationType → String
  | create => "create"
  | update => "update"
  | delete => "delete"

/-- The options of a call: the payload as `JSON.stringify` writes it. -/
structure EnqueueOptions where
  type : MutationType
  tableName : String
  entityId : String
  payload : String
  idempotencyKey : Option String := none

/-- `generateIdempotencyKey`, without a custom key. -/
def generateIdempotencyKey (options : EnqueueOptions) (entityId : String) : String :=
  let hashed :=
    "\x7b\"type\":" ++ quote options.type.text ++ ",\"tableName\":" ++ quote options.tableName ++
      ",\"entityId\":" ++ quote entityId ++ ",\"payload\":" ++ options.payload ++ "\x7d"
  options.tableName ++ ":" ++ entityId ++ ":" ++ simpleHash hashed

/-- `MutationQueueEntry`: what identifies it and what its key is made from. -/
structure MutationQueueEntry where
  id : String
  idempotencyKey : String
  type : MutationType
  tableName : String
  entityId : String
  payload : String
  deriving DecidableEq

/-- The entity of a call: a `create` that names none gets a provisional one. -/
def entityOf (options : EnqueueOptions) (provisionalId : String) : String :=
  if options.type = .create ∧ options.entityId = "" then provisionalId else options.entityId

def createMutationEntry (id : String) (options : EnqueueOptions) (entityId : String) :
    MutationQueueEntry :=
  { id := id
    idempotencyKey := generateIdempotencyKey options entityId
    type := options.type
    tableName := options.tableName
    entityId := entityId
    payload := options.payload }

example : simpleHash "ab" = "00596e26" := by decide +kernel

variable {ι : Type}

/-- An entry of the table, with the call that has added it. -/
structure Row (ι : Type) where
  entry : MutationQueueEntry
  caller : ι

/-- Where a call of `enqueue` stands. -/
inductive Phase
  | called
  | missed
  | returned (entry : MutationQueueEntry)
  deriving DecidableEq

/-- The table of mutations, which all managers share, and the calls. -/
structure State (ι : Type) where
  table : List (Row ι) := []
  phase : ι → Phase := fun _ => .called

/-- The operations of the calls on the table; the ids are random. -/
inductive Operation (ι : Type)
  | find (call : ι)
  | add (call : ι) (id provisionalId : String)

def idLe (row other : Row ι) : Bool :=
  TableLocking.unitsLe (row.entry.id.toList.flatMap TableLocking.codeUnits)
    (other.entry.id.toList.flatMap TableLocking.codeUnits)

/-- `findByIdempotencyKey`: of the rows under a key, the one whose id is the first. -/
def findByIdempotencyKey (key : String) (table : List (Row ι)) : Option (Row ι) :=
  ((table.filter fun row => row.entry.idempotencyKey = key).insertionSort
    fun row other => idLe row other = true).head?

variable (options : ι → EnqueueOptions)

def newEntry (call : ι) (id provisionalId : String) : MutationQueueEntry :=
  createMutationEntry id (options call) (entityOf (options call) provisionalId)

/-- Before its insertion, a call with a key has found nothing. -/
def beforeAdd (call : ι) : Phase :=
  if (options call).idempotencyKey.isSome then .missed else .called

/-- `enqueue`: the next operation of a call.  A random id is not in the table yet. -/
def step [DecidableEq ι] (s : State ι) : Operation ι → Option (State ι)
  | .find call =>
      match (options call).idempotencyKey with
      | none => none
      | some key =>
          if s.phase call = .called then
            match findByIdempotencyKey key s.table with
            | some row =>
                some { s with phase := Function.update s.phase call (.returned row.entry) }
            | none => some { s with phase := Function.update s.phase call .missed }
          else none
  | .add call id provisionalId =>
      if s.phase call = beforeAdd options call ∧ ∀ row ∈ s.table, row.entry.id ≠ id then
        some { table := s.table ++ [⟨newEntry options call id provisionalId, call⟩]
               phase := Function.update s.phase call
                (.returned (newEntry options call id provisionalId)) }
      else none

def SameKey (call other : ι) : Prop :=
  (options call).idempotencyKey ≠ none ∧
    (options call).idempotencyKey = (options other).idempotencyKey

/-- Whatever two calls have returned is queued: one entry if they have the same key, and two
if not. -/
def Idempotent (s : State ι) : Prop :=
  ∀ call other entry entry', call ≠ other → s.phase call = .returned entry →
    s.phase other = .returned entry' →
      (∃ row ∈ s.table, row.entry = entry) ∧ (∃ row ∈ s.table, row.entry = entry') ∧
        (SameKey options call other → entry = entry') ∧
        (¬ SameKey options call other → entry.id ≠ entry'.id)

/-- **The condition.**  A search finds an entry only if it was queued with the key that is
searched for, and when an entry is added, nothing is there that was queued with its key. -/
def Coincides (s : State ι) : Operation ι → Prop
  | .find call =>
      ∀ key row, (options call).idempotencyKey = some key →
        findByIdempotencyKey key s.table = some row →
          (options row.caller).idempotencyKey = some key
  | .add call _ _ => ∀ row ∈ s.table, ¬ SameKey options call row.caller

section Steps

variable {options : ι → EnqueueOptions} {s t : State ι} {call other : ι} {row : Row ι}
  {key id provisionalId : String} {entry : MutationQueueEntry}

theorem SameKey.symm (h : SameKey options call other) : SameKey options other call :=
  ⟨h.2 ▸ h.1, h.2.symm⟩

theorem find_some {table : List (Row ι)} (h : findByIdempotencyKey key table = some row) :
    row ∈ table ∧ row.entry.idempotencyKey = key := by
  unfold findByIdempotencyKey at h
  have hmem := List.mem_of_mem_head? (Option.mem_def.2 h)
  rw [List.mem_insertionSort, List.mem_filter] at hmem
  exact ⟨hmem.1, by simpa using hmem.2⟩

theorem beforeAdd_ne_returned : beforeAdd options call ≠ .returned entry := by
  unfold beforeAdd
  grind

/-- Every row has been returned by the call that has added it, and what a call has returned
is a row that itself or a call with the same key has added. -/
structure Inv (options : ι → EnqueueOptions) (s : State ι) : Prop where
  added : ∀ row ∈ s.table, s.phase row.caller = .returned row.entry
  queued : ∀ call entry, s.phase call = .returned entry →
    ∃ row ∈ s.table, row.entry = entry ∧ (row.caller = call ∨ SameKey options call row.caller)
  ids : ∀ row ∈ s.table, ∀ row' ∈ s.table, row.entry.id = row'.entry.id → row = row'
  once : ∀ row ∈ s.table, ∀ row' ∈ s.table, SameKey options row.caller row'.caller → row = row'

theorem Inv.start : Inv options ({} : State ι) where
  added := fun row hrow => absurd hrow List.not_mem_nil
  queued := fun call entry h => by cases h
  ids := fun row hrow => absurd hrow List.not_mem_nil
  once := fun row hrow => absurd hrow List.not_mem_nil

theorem Inv.idempotent (hinv : Inv options s) : Idempotent options s := by
  intro call other entry entry' hne hcall hother
  obtain ⟨row, hrow, hentry, hcaller⟩ := hinv.queued call entry hcall
  obtain ⟨row', hrow', hentry', hcaller'⟩ := hinv.queued other entry' hother
  refine ⟨⟨row, hrow, hentry⟩, ⟨row', hrow', hentry'⟩, ?_, ?_⟩
  · intro hsame
    have hcallers : SameKey options row.caller row'.caller := by
      unfold SameKey at hsame hcaller hcaller' ⊢
      grind
    rw [← hentry, ← hentry', hinv.once row hrow row' hrow' hcallers]
  · intro hdiffer hid
    have hrows : row = row' := hinv.ids row hrow row' hrow' (by rw [hentry, hentry', hid])
    subst hrows
    unfold SameKey at hdiffer hcaller hcaller'
    grind

theorem Inv.ne_caller (hinv : Inv options s) (hrow : row ∈ s.table)
    (hphase : ∀ entry, s.phase call ≠ .returned entry) : row.caller ≠ call := by
  intro hcaller
  have hadded := hinv.added row hrow
  rw [hcaller] at hadded
  exact hphase row.entry hadded

variable [DecidableEq ι]

theorem step_find (h : step options s (.find call) = some t) :
    ∃ key, (options call).idempotencyKey = some key ∧ s.phase call = .called ∧
      t.table = s.table ∧
      ((∃ row, findByIdempotencyKey key s.table = some row ∧
          t.phase = Function.update s.phase call (.returned row.entry)) ∨
        (findByIdempotencyKey key s.table = none ∧
          t.phase = Function.update s.phase call .missed)) := by
  unfold step at h
  cases hkey : (options call).idempotencyKey with
  | none => simp [hkey] at h
  | some key =>
      simp only [hkey] at h
      by_cases hcalled : s.phase call = .called
      · rw [if_pos hcalled] at h
        cases hfind : findByIdempotencyKey key s.table with
        | none =>
            rw [hfind] at h
            cases h
            exact ⟨key, rfl, hcalled, rfl, .inr ⟨hfind, rfl⟩⟩
        | some row =>
            rw [hfind] at h
            cases h
            exact ⟨key, rfl, hcalled, rfl, .inl ⟨row, hfind, rfl⟩⟩
      · rw [if_neg hcalled] at h
        cases h

theorem step_add (h : step options s (.add call id provisionalId) = some t) :
    s.phase call = beforeAdd options call ∧ (∀ row ∈ s.table, row.entry.id ≠ id) ∧
      t.table = s.table ++ [⟨newEntry options call id provisionalId, call⟩] ∧
      t.phase = Function.update s.phase call
        (.returned (newEntry options call id provisionalId)) := by
  unfold step at h
  by_cases hready : s.phase call = beforeAdd options call ∧ ∀ row ∈ s.table, row.entry.id ≠ id
  · simp only [if_pos hready] at h
    cases h
    exact ⟨hready.1, hready.2, rfl, rfl⟩
  · simp only [if_neg hready] at h
    cases h

theorem Inv.find (hinv : Inv options s) (hcond : Coincides options s (.find call))
    (h : step options s (.find call) = some t) : Inv options t := by
  obtain ⟨key, hkey, hcalled, htable, hphase⟩ := step_find h
  have hold : ∀ row ∈ s.table, row.caller ≠ call := fun row hrow =>
    hinv.ne_caller hrow fun entry hentry => by
      rw [hcalled] at hentry
      cases hentry
  constructor
  · intro row hrow
    rw [htable] at hrow
    have hadded := hinv.added row hrow
    have hne := hold row hrow
    obtain ⟨found, -, hphase⟩ | ⟨-, hphase⟩ := hphase
    · rwa [hphase, Function.update_of_ne hne]
    · rwa [hphase, Function.update_of_ne hne]
  · intro other entry hentry
    rw [htable]
    by_cases hother : other = call
    · subst hother
      obtain ⟨found, hfind, hphase⟩ | ⟨-, hphase⟩ := hphase
      · rw [hphase, Function.update_self] at hentry
        have hfound := hcond key found hkey hfind
        have hsame : SameKey options other found.caller :=
          ⟨by rw [hkey]; simp, hkey.trans hfound.symm⟩
        exact ⟨found, (find_some hfind).1, Phase.returned.inj hentry, .inr hsame⟩
      · rw [hphase, Function.update_self] at hentry
        cases hentry
    · refine hinv.queued other entry ?_
      obtain ⟨found, -, hphase⟩ | ⟨-, hphase⟩ := hphase
      · rwa [hphase, Function.update_of_ne hother] at hentry
      · rwa [hphase, Function.update_of_ne hother] at hentry
  · rw [htable]
    exact hinv.ids
  · rw [htable]
    exact hinv.once

theorem Inv.add (hinv : Inv options s)
    (hcond : Coincides options s (.add call id provisionalId))
    (h : step options s (.add call id provisionalId) = some t) : Inv options t := by
  obtain ⟨hready, hfresh, htable, hphase⟩ := step_add h
  have hold : ∀ row ∈ s.table, row.caller ≠ call := fun row hrow =>
    hinv.ne_caller hrow fun entry hentry => beforeAdd_ne_returned (hready.symm.trans hentry)
  have hid : (newEntry options call id provisionalId).id = id := rfl
  constructor
  · intro row hrow
    rw [htable, List.mem_append, List.mem_singleton] at hrow
    obtain hrow | hrow := hrow
    · rw [hphase, Function.update_of_ne (hold row hrow)]
      exact hinv.added row hrow
    · rw [hrow, hphase, Function.update_self]
  · intro other entry hentry
    rw [hphase] at hentry
    rw [htable]
    by_cases hother : other = call
    · subst hother
      rw [Function.update_self] at hentry
      exact ⟨_, List.mem_append_right _ List.mem_cons_self, Phase.returned.inj hentry, .inl rfl⟩
    · rw [Function.update_of_ne hother] at hentry
      obtain ⟨row, hrow, hrest⟩ := hinv.queued other entry hentry
      exact ⟨row, List.mem_append_left _ hrow, hrest⟩
  · intro row hrow row' hrow' heq
    have hids := hinv.ids row
    rw [htable, List.mem_append, List.mem_singleton] at hrow hrow'
    grind
  · intro row hrow row' hrow' hsame
    have honce := hinv.once row
    have hcond' : ∀ row ∈ s.table, ¬ SameKey options call row.caller := hcond
    have hsymm := hsame.symm
    rw [htable, List.mem_append, List.mem_singleton] at hrow hrow'
    grind

theorem Inv.step {operation : Operation ι} (hinv : Inv options s)
    (hcond : Coincides options s operation)
    (h : step options s operation = some t) : Inv options t := by
  cases operation with
  | find call => exact hinv.find hcond h
  | add call id provisionalId => exact hinv.add hcond h

/-- A step that does not coincide breaks the property at once. -/
theorem Inv.coincides {operation : Operation ι} (hinv : Inv options s)
    (h : IdempotentEnqueue.step options s operation = some t) (hgood : Idempotent options t) :
    Coincides options s operation := by
  cases operation with
  | find call =>
      intro key row hkey hfind
      obtain ⟨key', hkey', hcalled, htable, hphase⟩ := step_find h
      obtain rfl : key = key' := Option.some.inj (hkey.symm.trans hkey')
      have hrow := (find_some hfind).1
      have hadded := hinv.added row hrow
      have hne : row.caller ≠ call := hinv.ne_caller hrow fun entry hentry => by
        rw [hcalled] at hentry
        cases hentry
      obtain ⟨found, hfound, hphase⟩ | ⟨hmissed, -⟩ := hphase
      · obtain rfl : row = found := Option.some.inj (hfind.symm.trans hfound)
        by_contra hdiffer
        have hsame : ¬ SameKey options row.caller call := by
          unfold SameKey
          grind
        refine (hgood row.caller call row.entry row.entry hne ?_ ?_).2.2.2 hsame rfl
        · rwa [hphase, Function.update_of_ne hne]
        · rw [hphase, Function.update_self]
      · rw [hfind] at hmissed
        cases hmissed
  | add call id provisionalId =>
      intro row hrow hsame
      obtain ⟨hready, hfresh, htable, hphase⟩ := step_add h
      have hadded := hinv.added row hrow
      have hne : row.caller ≠ call := hinv.ne_caller hrow fun entry hentry =>
        beforeAdd_ne_returned (hready.symm.trans hentry)
      have hentries := (hgood row.caller call row.entry _ hne
        (by rwa [hphase, Function.update_of_ne hne])
        (by rw [hphase, Function.update_self])).2.2.1 hsame.symm
      exact hfresh row hrow (by rw [hentries]; rfl)

end Steps

/-- A call that saves a task, with or without a key. -/
def save (idempotencyKey : Option String) : EnqueueOptions :=
  { type := .update, tableName := "tasks", entityId := "7", payload := "1"
    idempotencyKey := idempotencyKey }

end IdempotentEnqueue

end Zentra
