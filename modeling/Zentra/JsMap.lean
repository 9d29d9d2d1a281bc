import Mathlib.Data.List.Induction
import Mathlib.Data.List.Nodup

/-!
# Maps in the order of insertion

A `Map` as JavaScript has it: each key has at most one value, and the entries are gone
through in the order in which their keys were added.  A key that gets a new value keeps its
place.

* `get`, `set`, `delete`, `filter`, `keyed` — the operations;
* `get_set`, `get_delete`, `get_filter`, `get_keyed` — what is found after each of them;
* `mem_entries_iff` — the entries are what is found.
-/

/-- The entries, under distinct keys. -/
structure JsMap (K V : Type) where
  entries : List (K × V)
  distinct : (entries.map Prod.fst).Nodup

namespace JsMap

variable {K V : Type}

@[ext] theorem ext {m n : JsMap K V} (h : m.entries = n.entries) : m = n := by
  cases m
  cases n
  cases h
  rfl

def empty : JsMap K V where
  entries := []
  distinct := List.nodup_nil

def size (m : JsMap K V) : Nat := m.entries.length

/-- The entries that satisfy a condition. -/
def filter (p : K × V → Bool) (m : JsMap K V) : JsMap K V where
  entries := m.entries.filter p
  distinct := m.distinct.sublist (List.filter_sublist.map _)

theorem filter_eq_self {m : JsMap K V} {p : K × V → Bool}
    (h : ∀ entry ∈ m.entries, p entry = true) : m.filter p = m :=
  ext (List.filter_eq_self.2 h)

variable [DecidableEq K] (m : JsMap K V) (k : K) (v : V)

instance [DecidableEq V] : DecidableEq (JsMap K V) := fun m n =>
  decidable_of_iff (m.entries = n.entries) ⟨ext, fun h => h ▸ rfl⟩

def get : Option V := (m.entries.find? fun entry => entry.1 = k).map Prod.snd

theorem get_eq_some {m : JsMap K V} {k : K} {v : V} :
    m.get k = some v ↔ (k, v) ∈ m.entries := by
  unfold get
  constructor
  · intro h
    obtain ⟨entry, hfind, rfl⟩ := Option.map_eq_some_iff.1 h
    have hkey : entry.1 = k := by simpa using List.find?_some hfind
    have hmem := List.mem_of_find?_eq_some hfind
    rw [← hkey]
    exact hmem
  · intro h
    obtain ⟨found, hfind⟩ : ∃ found, (m.entries.find? fun entry => entry.1 = k) = some found := by
      rw [← Option.isSome_iff_exists, List.find?_isSome]
      exact ⟨(k, v), h, by simp⟩
    have hkey : found.1 = k := by simpa using List.find?_some hfind
    have hsame := List.inj_on_of_nodup_map m.distinct (List.mem_of_find?_eq_some hfind) h hkey
    rw [hfind, hsame]
    rfl

theorem mem_entries_iff {entry : K × V} : entry ∈ m.entries ↔ m.get entry.1 = some entry.2 :=
  get_eq_some.symm

theorem get_eq_none {m : JsMap K V} {k : K} : m.get k = none ↔ ∀ entry ∈ m.entries, entry.1 ≠ k := by
  simp [get, List.find?_eq_none]

@[simp] theorem get_empty : (empty : JsMap K V).get k = none := rfl

/-- The keys with a new value: a new key is the last one. -/
theorem distinct_set : ((if m.entries.any fun entry => entry.1 = k then
      m.entries.map fun entry => if entry.1 = k then (k, v) else entry
    else m.entries ++ [(k, v)]).map Prod.fst).Nodup := by
  by_cases hany : (m.entries.any fun entry => entry.1 = k) = true
  · rw [if_pos hany, List.map_map]
    have hkeys : m.entries.map (Prod.fst ∘ fun entry => if entry.1 = k then (k, v) else entry) =
        m.entries.map Prod.fst := by
      refine List.map_congr_left fun entry _ => ?_
      by_cases hkey : entry.1 = k
      · simp [hkey]
      · simp [hkey]
    rw [hkeys]
    exact m.distinct
  · rw [if_neg hany, List.map_append, List.nodup_append]
    refine ⟨m.distinct, by simp, ?_⟩
    intro key hkey last hlast heq
    obtain ⟨entry, hentry, rfl⟩ := List.mem_map.1 hkey
    have hk : last = k := by simpa using hlast
    exact hany (List.any_eq_true.2 ⟨entry, hentry, by simpa using heq.trans hk⟩)

/-- Give a key a value. -/
def set : JsMap K V where
  entries :=
    if m.entries.any fun entry => entry.1 = k then
      m.entries.map fun entry => if entry.1 = k then (k, v) else entry
    else m.entries ++ [(k, v)]
  distinct := distinct_set m k v

def delete : JsMap K V := m.filter fun entry => entry.1 ≠ k

variable {m k v}

theorem mem_set {entry : K × V} :
    entry ∈ (m.set k v).entries ↔ entry = (k, v) ∨ entry ∈ m.entries ∧ entry.1 ≠ k := by
  unfold set
  dsimp only
  by_cases hany : (m.entries.any fun entry => entry.1 = k) = true
  · rw [if_pos hany, List.mem_map]
    constructor
    · intro ⟨old, hold, heq⟩
      by_cases hkey : old.1 = k
      · rw [if_pos hkey] at heq
        exact .inl heq.symm
      · rw [if_neg hkey] at heq
        exact .inr ⟨heq ▸ hold, heq ▸ hkey⟩
    · intro h
      obtain rfl | ⟨hmem, hkey⟩ := h
      · obtain ⟨old, hold, hkey⟩ := List.any_eq_true.1 hany
        exact ⟨old, hold, if_pos (by simpa using hkey)⟩
      · exact ⟨entry, hmem, if_neg hkey⟩
  · rw [if_neg hany, List.mem_append, List.mem_singleton]
    constructor
    · intro h
      obtain hmem | hnew := h
      · refine .inr ⟨hmem, fun hkey => hany ?_⟩
        exact List.any_eq_true.2 ⟨entry, hmem, by simpa using hkey⟩
      · exact .inl hnew
    · intro h
      obtain hnew | ⟨hmem, -⟩ := h
      · exact .inr hnew
      · exact .inl hmem

theorem get_set (other : K) : (m.set k v).get other = if other = k then some v else m.get other := by
  by_cases hother : other = k
  · rw [if_pos hother, get_eq_some, mem_set]
    exact .inl (by rw [hother])
  · rw [if_neg hother]
    cases hget : m.get other with
    | none =>
        rw [get_eq_none]
        intro entry hentry
        obtain rfl | ⟨hmem, -⟩ := mem_set.1 hentry
        · exact fun h => hother h.symm
        · exact get_eq_none.1 hget entry hmem
    | some w =>
        rw [get_eq_some, mem_set]
        exact .inr ⟨get_eq_some.1 hget, hother⟩

@[simp] theorem get_set_self : (m.set k v).get k = some v := by
  rw [get_set, if_pos rfl]

theorem get_set_of_ne {other : K} (h : other ≠ k) : (m.set k v).get other = m.get other := by
  rw [get_set, if_neg h]

/-- What is found among the entries that satisfy a condition. -/
theorem get_filter (p : K × V → Bool) :
    (m.filter p).get k = (m.get k).filter fun v => p (k, v) := by
  cases hget : m.get k with
  | none =>
      rw [Option.filter_none, get_eq_none]
      intro entry hentry
      exact get_eq_none.1 hget entry (List.mem_of_mem_filter hentry)
  | some w =>
      rw [Option.filter_some]
      by_cases hp : p (k, w) = true
      · rw [if_pos hp, get_eq_some]
        exact List.mem_filter.2 ⟨get_eq_some.1 hget, hp⟩
      · rw [if_neg hp, get_eq_none]
        intro entry hentry hkey
        obtain ⟨hmem, hentryp⟩ := List.mem_filter.1 hentry
        have hvalue : entry = (k, w) := List.inj_on_of_nodup_map m.distinct hmem
          (get_eq_some.1 hget) hkey
        exact hp (hvalue ▸ hentryp)

theorem get_delete (other : K) :
    (m.delete k).get other = if other = k then none else m.get other := by
  rw [delete, get_filter]
  by_cases hother : other = k
  · rw [if_pos hother]
    cases m.get other with
    | none => rfl
    | some w => simp [hother]
  · rw [if_neg hother]
    cases m.get other with
    | none => rfl
    | some w => simp [hother]

/-- `new Map(items.map((item) => [key(item), item]))`. -/
def keyed (key : V → K) (items : List V) : JsMap K V :=
  items.foldl (fun m item => m.set (key item) item) empty

/-- Where the keys of the items are distinct, the map has them all. -/
theorem get_keyed {key : V → K} {items : List V} (h : (items.map key).Nodup) :
    (keyed key items).get k = some v ↔ v ∈ items ∧ key v = k := by
  induction items using List.reverseRecOn with
  | nil => simp [keyed]
  | append_singleton rest last ih =>
      have hlast : keyed key (rest ++ [last]) = (keyed key rest).set (key last) last := by
        simp [keyed]
      rw [List.map_append, List.nodup_append] at h
      obtain ⟨hrest, -, hapart⟩ := h
      rw [hlast, get_set, List.mem_append, List.mem_singleton]
      by_cases hkey : k = key last
      · rw [if_pos hkey]
        constructor
        · intro hsame
          obtain rfl : last = v := Option.some.inj hsame
          exact ⟨.inr rfl, hkey.symm⟩
        · intro ⟨hmem, hv⟩
          obtain hmem | rfl := hmem
          · exact absurd (hv.trans hkey)
              (hapart _ (List.mem_map_of_mem hmem) _ List.mem_cons_self)
          · rfl
      · rw [if_neg hkey, ih hrest]
        refine ⟨fun hfound => ⟨.inl hfound.1, hfound.2⟩, fun ⟨hmem, hv⟩ => ⟨?_, hv⟩⟩
        exact hmem.resolve_right fun hsame => hkey (hsame ▸ hv.symm)

theorem size_set (h : (m.get k).isSome) : (m.set k v).size = m.size := by
  obtain ⟨w, hw⟩ := Option.isSome_iff_exists.1 h
  have hany : (m.entries.any fun entry => entry.1 = k) = true :=
    List.any_eq_true.2 ⟨(k, w), get_eq_some.1 hw, by simp⟩
  unfold size set
  dsimp only
  rw [if_pos hany, List.length_map]

end JsMap
