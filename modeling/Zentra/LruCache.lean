import Mathlib.Data.List.Basic

/-!
# Caches that drop what was used least recently

Entries stand in the order in which they were last used.  A lookup moves its entry to the
end; a new entry is added there, and the first one makes room for it.

* `get`, `set`, `clear` — the operations;
* `Sound` — every entry satisfies a relation of keys and values; what is looked up
  satisfies it (`Sound.of_get`), and the operations keep it;
* `get_set` — what has just been stored is found.
-/

/-- A cache; `maxSize` is the number of entries from which on one makes room. -/
structure LruCache (K V : Type) where
  entries : List (K × V)
  maxSize : Nat

namespace LruCache

variable {K V : Type}

def empty (maxSize : Nat) : LruCache K V where
  entries := []
  maxSize := maxSize

def clear (c : LruCache K V) : LruCache K V := { c with entries := [] }

/-- Every entry satisfies the relation. -/
def Sound (p : K → V → Prop) (c : LruCache K V) : Prop :=
  ∀ entry ∈ c.entries, p entry.1 entry.2

theorem sound_empty {p : K → V → Prop} (maxSize : Nat) : Sound p (empty maxSize) :=
  fun _ h => absurd h List.not_mem_nil

theorem sound_clear {p : K → V → Prop} (c : LruCache K V) : Sound p c.clear :=
  fun _ h => absurd h List.not_mem_nil

theorem Sound.mono {p q : K → V → Prop} {c : LruCache K V} (h : Sound p c)
    (hpq : ∀ k v, p k v → q k v) : Sound q c := fun entry hentry => hpq _ _ (h entry hentry)

variable [DecidableEq K] (c : LruCache K V) (k : K) (v : V)

def others : List (K × V) := c.entries.filter fun entry => entry.1 ≠ k

/-- Look a key up; its entry is now the one used last. -/
def get : Option V × LruCache K V :=
  match c.entries.find? fun entry => entry.1 = k with
  | none => (none, c)
  | some entry => (some entry.2, { c with entries := c.others k ++ [entry] })

def set : LruCache K V :=
  let kept := if c.maxSize ≤ (c.others k).length then (c.others k).drop 1 else c.others k
  { c with entries := kept ++ [(k, v)] }

variable {c k v} {p : K → V → Prop}

theorem get_of_find?_none (h : (c.entries.find? fun entry => entry.1 = k) = none) :
    c.get k = (none, c) := by
  simp only [get, h]

theorem get_of_find?_some {entry : K × V}
    (h : (c.entries.find? fun entry => entry.1 = k) = some entry) :
    c.get k = (some entry.2, { c with entries := c.others k ++ [entry] }) := by
  simp only [get, h]

theorem ne_of_mem_others {entry : K × V} (h : entry ∈ c.others k) : entry.1 ≠ k := by
  simpa using (List.mem_filter.1 h).2

/-- An entry at the end is found if no other has its key. -/
theorem find?_append {entries : List (K × V)} (h : ∀ entry ∈ entries, entry.1 ≠ k) :
    (entries ++ [(k, v)]).find? (fun entry => entry.1 = k) = some (k, v) := by
  rw [List.find?_append, List.find?_eq_none.2]
  · simp
  · intro entry hentry
    simpa using h entry hentry

theorem get_set : ((c.set k v).get k).1 = some v := by
  have hfind : ((c.set k v).entries.find? fun entry => entry.1 = k) = some (k, v) := by
    refine find?_append ?_
    split
    · exact fun entry hentry => ne_of_mem_others (List.mem_of_mem_drop hentry)
    · exact fun entry hentry => ne_of_mem_others hentry
  rw [get_of_find?_some hfind]

theorem get_get (h : (c.get k).1 = some v) : ((c.get k).2.get k).1 = some v := by
  cases hfind : c.entries.find? fun entry => entry.1 = k with
  | none =>
      rw [get_of_find?_none hfind] at h
      cases h
  | some entry =>
      have hkey : entry.1 = k := by simpa using List.find?_some hfind
      rw [get_of_find?_some hfind] at h ⊢
      obtain rfl : entry = (k, v) := Prod.ext hkey (Option.some.inj h)
      rw [get_of_find?_some (find?_append fun entry hentry => ne_of_mem_others hentry)]

theorem Sound.of_get (h : Sound p c) (hget : (c.get k).1 = some v) : p k v := by
  cases hfind : c.entries.find? fun entry => entry.1 = k with
  | none =>
      rw [get_of_find?_none hfind] at hget
      cases hget
  | some entry =>
      rw [get_of_find?_some hfind] at hget
      have hkey : entry.1 = k := by simpa using List.find?_some hfind
      have hvalue : entry.2 = v := Option.some.inj hget
      rw [← hkey, ← hvalue]
      exact h entry (List.mem_of_find?_eq_some hfind)

theorem Sound.get (h : Sound p c) : Sound p (c.get k).2 := by
  cases hfind : c.entries.find? fun entry => entry.1 = k with
  | none =>
      rw [get_of_find?_none hfind]
      exact h
  | some entry =>
      rw [get_of_find?_some hfind]
      intro other hother
      obtain hother | hother := List.mem_append.1 hother
      · exact h other (List.mem_filter.1 hother).1
      · rw [List.mem_singleton.1 hother]
        exact h entry (List.mem_of_find?_eq_some hfind)

theorem Sound.set (h : Sound p c) (hnew : p k v) : Sound p (c.set k v) := by
  have hothers : ∀ entry ∈ c.others k, p entry.1 entry.2 :=
    fun entry hentry => h entry (List.mem_filter.1 hentry).1
  intro entry hentry
  obtain hentry | hentry := List.mem_append.1 hentry
  · split at hentry
    · exact hothers entry (List.mem_of_mem_drop hentry)
    · exact hothers entry hentry
  · rw [List.mem_singleton.1 hentry]
    exact hnew

end LruCache
