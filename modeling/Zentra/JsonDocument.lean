import Mathlib.Algebra.Order.Ring.Rat
import Mathlib.Data.List.Lookmap

/-!
# JSON documents

The values of a JSON column, the lookups that a reader makes in them, and the
two ways in which a database takes a part of an object away.

* `get_delete`, `get_deletePath` — what a lookup finds after either of them;
* `not_hasPath_deletePath`, `deletePath_eq_self` — what a path led to is gone
  after its deletion, and what was not there is not missed;
* `mapM_map_eq_ok` — a list decodes to what it was encoded from as soon as each
  of its elements does.
-/

namespace JsonDocument

inductive Json
  | null
  | bool (value : Bool)
  | number (value : ℚ)
  | string (value : String)
  | array (items : List Json)
  | object (members : List (String × Json))

/-- An object: its members, in the order in which they are written. -/
abbrev Object : Type := List (String × Json)

namespace Json

/-- The value counts as true in a condition. -/
def truthy : Json → Bool
  | null => false
  | bool value => value
  | number value => decide (value ≠ 0)
  | string value => decide (value ≠ "")
  | array items => !items.isEmpty
  | object members => !members.isEmpty

/-- Change the members of an object; no other value has any. -/
def mapObject (f : Object → Object) : Json → Json
  | object members => object (f members)
  | value => value

end Json

namespace Object

/-- The value under a key, if there is one. -/
def get (key : String) (document : Object) : Option Json := document.lookup key

/-- `document - key`: the object without the key. -/
def delete (key : String) (document : Object) : Object :=
  document.filter fun member => decide (member.1 ≠ key)

/-- `document #- path`: the object without what the path of keys leads to. -/
def deletePath : List String → Object → Object
  | [], document => document
  | [key], document => document.delete key
  | key :: next :: path, document =>
      document.map fun member =>
        if member.1 = key then
          (member.1, member.2.mapObject (deletePath (next :: path)))
        else member

variable {key other : String} {document : Object} {value : Json}

theorem get_nil : get key [] = none := rfl

theorem get_cons (member : String × Json) :
    get key (member :: document) =
      if member.1 = key then some member.2 else get key document := by
  unfold get
  rw [List.lookup_cons]
  by_cases hkey : member.1 = key
  · simp [hkey]
  · have hne : (key == member.1) = false :=
      beq_eq_false_iff_ne.2 fun h => hkey h.symm
    rw [if_neg hkey, hne]

theorem get_delete :
    get key (delete other document) = if key = other then none else get key document := by
  unfold delete
  induction document with
  | nil => simp [get_nil]
  | cons member document ih =>
      by_cases hother : member.1 = other
      · rw [List.filter_cons_of_neg (by simpa using hother), ih, get_cons]
        by_cases hkey : key = other
        · rw [if_pos hkey, if_pos hkey]
        · have hne : ¬ member.1 = key := fun h => hkey (h.symm.trans hother)
          rw [if_neg hkey, if_neg hkey, if_neg hne]
      · rw [List.filter_cons_of_pos (by simpa using hother), get_cons, get_cons, ih]
        by_cases hkey : member.1 = key
        · have hne : ¬ key = other := fun h => hother (hkey.trans h)
          rw [if_pos hkey, if_pos hkey, if_neg hne]
        · rw [if_neg hkey, if_neg hkey]

/-- A lookup after the deletion of a path through an object. -/
theorem get_deletePath {next : String} {path : List String} :
    get key (deletePath (other :: next :: path) document) =
      if key = other then
        (get key document).map (Json.mapObject (deletePath (next :: path)))
      else get key document := by
  rw [deletePath]
  induction document with
  | nil => simp [get_nil]
  | cons member document ih =>
      rw [List.map_cons, get_cons, get_cons, ih]
      by_cases hother : member.1 = other
      · rw [if_pos hother]
        by_cases hkey : member.1 = key
        · rw [if_pos hkey, if_pos hkey, if_pos (hkey.symm.trans hother)]
          rfl
        · rw [if_neg hkey, if_neg hkey]
      · rw [if_neg hother]
        by_cases hkey : member.1 = key
        · have hne : ¬ key = other := fun h => hother (hkey.trans h)
          rw [if_pos hkey, if_pos hkey, if_neg hne]
        · rw [if_neg hkey, if_neg hkey]

/-- The path of keys leads to something in the object. -/
def HasPath : List String → Object → Prop
  | [], _ => False
  | [key], document => ∃ value, (key, value) ∈ document
  | key :: next :: path, document =>
      ∃ inner, (key, Json.object inner) ∈ document ∧ HasPath (next :: path) inner

/-- A key leads to something exactly if a lookup finds it. -/
theorem hasPath_singleton : HasPath [key] document ↔ (get key document).isSome := by
  rw [HasPath]
  induction document with
  | nil => simp [get_nil]
  | cons member document ih =>
      rw [get_cons]
      by_cases hkey : member.1 = key
      · rw [if_pos hkey]
        refine ⟨fun _ => rfl, fun _ => ⟨member.2, ?_⟩⟩
        rw [← hkey]
        exact List.mem_cons_self
      · rw [if_neg hkey, ← ih]
        constructor
        · rintro ⟨value, hvalue⟩
          rcases List.mem_cons.1 hvalue with rfl | hrest
          · exact absurd rfl hkey
          · exact ⟨value, hrest⟩
        · rintro ⟨value, hvalue⟩
          exact ⟨value, List.mem_cons_of_mem _ hvalue⟩

theorem deletePath_singleton : deletePath [key] document = document.delete key := rfl

theorem not_hasPath_deletePath (path : List String) (document : Object) :
    ¬ HasPath path (deletePath path document) := by
  induction path generalizing document with
  | nil => exact id
  | cons key path ih =>
      cases path with
      | nil =>
          rw [hasPath_singleton, deletePath_singleton, get_delete, if_pos rfl]
          simp
      | cons next path =>
          rintro ⟨inner, hinner, hpath⟩
          rw [deletePath, List.mem_map] at hinner
          obtain ⟨⟨name, value⟩, -, hmember⟩ := hinner
          by_cases hname : name = key
          · rw [if_pos hname] at hmember
            cases value with
            | object members =>
                cases hmember
                exact ih members hpath
            | _ => cases hmember
          · rw [if_neg hname] at hmember
            cases hmember
            exact hname rfl

theorem deletePath_eq_self (path : List String) (document : Object)
    (h : ¬ HasPath path document) : deletePath path document = document := by
  induction path generalizing document with
  | nil => rfl
  | cons key path ih =>
      cases path with
      | nil =>
          rw [deletePath_singleton, delete, List.filter_eq_self]
          rintro ⟨name, value⟩ hmember
          have hname : name ≠ key := by
            rintro rfl
            exact h ⟨value, hmember⟩
          simpa using hname
      | cons next path =>
          rw [deletePath]
          refine (List.map_congr_left ?_).trans (List.map_id document)
          rintro ⟨name, value⟩ hmember
          by_cases hname : name = key
          · rw [if_pos hname]
            cases value with
            | object members =>
                have hinner : ¬ HasPath (next :: path) members := by
                  intro hpath
                  exact h ⟨members, hname ▸ hmember, hpath⟩
                show (name, Json.object (deletePath (next :: path) members)) = _
                rw [ih members hinner]
                rfl
            | _ => rfl
          · rw [if_neg hname]
            rfl

theorem deletePath_deletePath (path : List String) (document : Object) :
    deletePath path (deletePath path document) = deletePath path document :=
  deletePath_eq_self path _ (not_hasPath_deletePath path document)

end Object

section Decoding

variable {ε α β : Type}

theorem mapM_map_eq_ok {encode : α → β} {decode : β → Except ε α}
    (h : ∀ a, decode (encode a) = .ok a) (as : List α) :
    (as.map encode).mapM decode = .ok as := by
  induction as with
  | nil => rfl
  | cons a as ih =>
      rw [List.map_cons, List.mapM_cons, h a, ih]
      rfl

end Decoding

end JsonDocument
