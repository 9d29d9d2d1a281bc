import Zentra.FieldNames
import Zentra.RelationInference

/-!
# What the candidates cover

Every field of the catalogs is in a candidate or is reported, once, with the reason why it is in
none; and the candidates are the pairs of fields of different tables that are compatible and
similar by name, in whatever order the catalogs, their tables and the fields come.

* `perm_places` — the fields of catalogs that are ordered in another way;
* `candidates_cover` — coverage, candidates between tables, order independence and the sorting.
-/

open TableRows

namespace Zentra

namespace Connector

/-- The rules whose affinity is that of the source. -/
def TextRules.named (rules : TextRules) (lower : String → String) : TextRules :=
  { rules with nameAffinity := Connector.nameAffinity lower }

def CandidatePair.key (candidate : CandidatePair) : Sym2 UUID :=
  s(candidate.leftField.fieldId, candidate.rightField.fieldId)

def CatalogEntry.fieldId (entry : CatalogEntry) : UUID := entry.field.fieldId

/-- The field identifiers of the catalogs are all different. -/
def FieldsDistinct (catalogs : List (UUID × CatalogVersion)) : Prop :=
  ((catalogEntries catalogs).map CatalogEntry.fieldId).Nodup

instance (catalogs : List (UUID × CatalogVersion)) : Decidable (FieldsDistinct catalogs) :=
  inferInstanceAs (Decidable (List.Nodup _))

/-- A field with what the pairing reads of its source and its table. -/
structure FieldPlace where
  dataSourceId : UUID
  tableId : UUID
  tableName : String
  field : SourceField

def CatalogEntry.place (entry : CatalogEntry) : FieldPlace :=
  ⟨entry.dataSourceId, entry.table.tableId, entry.table.name, entry.field⟩

/-- Two fields of different tables, compatible by type and similar by name. -/
structure Joins (lower : String → String) (left right : FieldPlace) (affinity : ℚ) : Prop where
  apart : ¬ (left.dataSourceId = right.dataSourceId ∧ left.tableId = right.tableId)
  compatible : TypesAreCompatible left.field.family right.field.family
  affinity_eq : nameAffinity lower left.tableName left.field.name right.tableName
    right.field.name = affinity
  similar : 1 / 100 ≤ affinity

section Pairing

variable {rules : TextRules} {lower : String → String} {left right : CatalogEntry}
  {entries : List CatalogEntry} {pair : Sym2 UUID} {affinity : ℚ}

theorem typesAreCompatible_symm {left right : TypeFamily} (h : TypesAreCompatible left right) :
    TypesAreCompatible right left := by
  obtain ⟨hleft, hright, hpair⟩ := h
  refine ⟨hright, hleft, ?_⟩
  rw [Sym2.eq_swap]
  exact hpair.imp_left Eq.symm

theorem joins_symm {left right : FieldPlace} (h : Joins lower left right affinity) :
    Joins lower right left affinity where
  apart := fun hsame => h.apart ⟨hsame.1.symm, hsame.2.symm⟩
  compatible := typesAreCompatible_symm h.compatible
  affinity_eq := (nameAffinity_symm lower _ _ _ _).trans h.affinity_eq
  similar := h.similar

theorem joinable_of_compatible {family second : TypeFamily} {field : SourceField}
    (hfamily : field.family = family) (h : TypesAreCompatible family second) :
    notJoinable field = none := by
  unfold notJoinable
  rw [hfamily]
  have hmem := h.1
  cases family with
  | float | temporal | boolean | other => exact absurd hmem (by decide)
  | _ => rfl

theorem exists_pairUp_iff :
    (∃ candidate, pairUp (rules.named lower) left right = some candidate ∧
        candidate.key = pair ∧ candidate.nameAffinity = affinity) ↔
      Joins lower left.place right.place affinity ∧ s(left.fieldId, right.fieldId) = pair := by
  unfold pairUp
  dsimp only
  constructor
  · intro ⟨candidate, hcandidate, hkey, haffinity⟩
    split_ifs at hcandidate with hsame hcompatible hweak
    cases hcandidate
    exact ⟨⟨hsame, hcompatible, haffinity, haffinity ▸ not_lt.1 hweak⟩, hkey⟩
  · intro ⟨hjoins, hpair⟩
    have hsimilar : 1 / 100 ≤ (rules.named lower).nameAffinity left.table.name left.field.name
        right.table.name right.field.name := hjoins.similar.trans_eq hjoins.affinity_eq.symm
    have happart : ¬ (left.dataSourceId = right.dataSourceId ∧
        left.table.tableId = right.table.tableId) := hjoins.apart
    have hcompatible : TypesAreCompatible left.field.family right.field.family :=
      hjoins.compatible
    rw [if_neg happart, if_neg (not_not.2 hcompatible), if_neg (not_lt.2 hsimilar)]
    exact ⟨_, rfl, hpair, hjoins.affinity_eq⟩

/-- **The candidates of a list of entries**, by induction over the list: whichever of two
entries comes first, they are paired once. -/
theorem exists_pairAll_iff (hdistinct : (entries.map CatalogEntry.fieldId).Nodup) :
    (∃ candidate ∈ pairAll (rules.named lower) entries,
        candidate.key = pair ∧ candidate.nameAffinity = affinity) ↔
      ∃ left ∈ entries, ∃ right ∈ entries, left.fieldId ≠ right.fieldId ∧
        Joins lower left.place right.place affinity ∧ s(left.fieldId, right.fieldId) = pair := by
  induction entries with
  | nil => simp [pairAll]
  | cons first rest ih =>
      rw [List.map_cons, List.nodup_cons] at hdistinct
      have hothers : ∀ other ∈ rest, first.fieldId ≠ other.fieldId := by
        intro other hother hsame
        exact hdistinct.1 (List.mem_map.2 ⟨other, hother, hsame.symm⟩)
      unfold pairAll
      constructor
      · intro ⟨candidate, hcandidate, hkey, haffinity⟩
        obtain hfirst | hrest := List.mem_append.1 hcandidate
        · obtain ⟨other, hother, hpair⟩ := List.mem_filterMap.1 hfirst
          exact ⟨first, List.mem_cons_self, other, List.mem_cons_of_mem _ hother,
            hothers other hother, exists_pairUp_iff.1 ⟨candidate, hpair, hkey, haffinity⟩⟩
        · obtain ⟨left, hleft, right, hright, hjoined⟩ :=
            (ih hdistinct.2).1 ⟨candidate, hrest, hkey, haffinity⟩
          exact ⟨left, List.mem_cons_of_mem _ hleft, right, List.mem_cons_of_mem _ hright,
            hjoined⟩
      · intro ⟨left, hleft, right, hright, hne, hjoins, hpair⟩
        have hwith : ∀ other ∈ rest, Joins lower first.place other.place affinity →
            s(first.fieldId, other.fieldId) = pair →
              ∃ candidate ∈ rest.filterMap (pairUp (rules.named lower) first) ++
                pairAll (rules.named lower) rest,
                candidate.key = pair ∧ candidate.nameAffinity = affinity := by
          intro other hother hjoins hpair
          obtain ⟨candidate, hmade, hfound⟩ : ∃ candidate,
              pairUp (rules.named lower) first other = some candidate ∧
                candidate.key = pair ∧ candidate.nameAffinity = affinity :=
            exists_pairUp_iff.2 ⟨hjoins, hpair⟩
          exact ⟨candidate, List.mem_append_left _ (List.mem_filterMap.2 ⟨other, hother, hmade⟩),
            hfound⟩
        obtain rfl | hinleft := List.mem_cons.1 hleft
        · obtain rfl | hinright := List.mem_cons.1 hright
          · exact absurd rfl hne
          · exact hwith right hinright hjoins hpair
        · obtain rfl | hinright := List.mem_cons.1 hright
          · exact hwith left hinleft (joins_symm hjoins) (Sym2.eq_swap.trans hpair)
          · obtain ⟨candidate, hcandidate, hfound⟩ :=
              (ih hdistinct.2).2 ⟨left, hinleft, right, hinright, hne, hjoins, hpair⟩
            exact ⟨candidate, List.mem_append_right _ hcandidate, hfound⟩

end Pairing

section Reports

variable {rules : TextRules} {lower : String → String}
  {catalogs others : List (UUID × CatalogVersion)} {entry : CatalogEntry}
  {candidate : CandidatePair}

def CandidatePair.Touches (candidate : CandidatePair) (fieldId : UUID) : Prop :=
  fieldId ∈ candidate.key

/-- **Coverage** of a field: it is in a candidate, and not reported, or it is in none and
reported exactly once, with a reason. -/
def FieldCovered (result : List CandidatePair × List UnexaminedField) (fieldId : UUID) : Prop :=
  ((∃ candidate ∈ result.1, candidate.Touches fieldId) ∧
      result.2.filter (fun report => report.fieldId = fieldId) = []) ∨
    ((¬ ∃ candidate ∈ result.1, candidate.Touches fieldId) ∧
      ∃ report, result.2.filter (fun report => report.fieldId = fieldId) = [report] ∧
        report.reason ≠ "")

/-- The entry of a field is the only one with its identifier. -/
theorem filter_entries (hdistinct : FieldsDistinct catalogs)
    (hentry : entry ∈ catalogEntries catalogs) :
    (catalogEntries catalogs).filter (fun other => other.fieldId = entry.fieldId) = [entry] := by
  obtain ⟨found, hfound, hid, hfilter⟩ :=
    filter_key_eq_singleton hdistinct (List.mem_map_of_mem hentry)
  obtain rfl := List.inj_on_of_nodup_map hdistinct hfound hentry hid
  exact hfilter

theorem candidate_sides (h : candidate ∈ (generateCandidates rules catalogs).1) :
    ∃ left ∈ catalogEntries catalogs, ∃ right ∈ catalogEntries catalogs,
      notJoinable left.field = none ∧ notJoinable right.field = none ∧
        candidate.leftField = left.field ∧ candidate.rightField = right.field ∧
          ¬ (left.dataSourceId = right.dataSourceId ∧
            left.table.tableId = right.table.tableId) := by
  obtain ⟨left, hleft, right, hright, hpair⟩ := mem_pairAll (mem_orderedBy.1 h)
  obtain ⟨hinleft, hjoinleft⟩ := List.mem_filter.1 hleft
  obtain ⟨hinright, hjoinright⟩ := List.mem_filter.1 hright
  obtain ⟨-, -, hleftfield, -, -, hrightfield⟩ := pairUp_eq_some hpair
  refine ⟨left, hinleft, right, hinright, of_decide_eq_true hjoinleft,
    of_decide_eq_true hjoinright, hleftfield, hrightfield, ?_⟩
  intro hsame
  unfold pairUp at hpair
  rw [if_pos hsame] at hpair
  cases hpair

theorem joinable_of_touches (hdistinct : FieldsDistinct catalogs)
    (hentry : entry ∈ catalogEntries catalogs)
    (h : candidate ∈ (generateCandidates rules catalogs).1)
    (htouches : candidate.Touches entry.fieldId) : notJoinable entry.field = none := by
  obtain ⟨left, hleft, right, hright, hjoinleft, hjoinright, hleftfield, hrightfield, -⟩ :=
    candidate_sides h
  unfold CandidatePair.Touches CandidatePair.key at htouches
  rw [hleftfield, hrightfield] at htouches
  obtain hid | hid := Sym2.mem_iff.1 htouches
  · rw [List.inj_on_of_nodup_map hdistinct hentry hleft hid]
    exact hjoinleft
  · rw [List.inj_on_of_nodup_map hdistinct hentry hright hid]
    exact hjoinright

theorem reason_ne_empty {field : SourceField} {reason : String}
    (h : notJoinable field = some reason) : reason ≠ "" := by
  unfold notJoinable at h
  split at h <;> cases h <;> decide

def pairedFields (candidates : List CandidatePair) : List UUID :=
  candidates.flatMap fun candidate => [candidate.leftField.fieldId, candidate.rightField.fieldId]

theorem mem_pairedFields {candidates : List CandidatePair} {fieldId : UUID} :
    fieldId ∈ pairedFields candidates ↔ ∃ candidate ∈ candidates, candidate.Touches fieldId := by
  unfold pairedFields CandidatePair.Touches CandidatePair.key
  simp [Sym2.mem_iff]

/-- **What is reported of one field**: why it is excluded, or, where it is joinable and in no
candidate, that it has no counterpart. -/
theorem filter_unexamined (hdistinct : FieldsDistinct catalogs)
    (hentry : entry ∈ catalogEntries catalogs) :
    (generateCandidates rules catalogs).2.filter (fun report => report.fieldId = entry.fieldId) =
      match notJoinable entry.field with
      | some reason => [entry.unexamined reason]
      | none =>
          if entry.fieldId ∈ pairedFields (generateCandidates rules catalogs).1 then []
          else [entry.unexamined "no type-compatible, name-similar counterpart found"] := by
  have honly := filter_entries hdistinct hentry
  have hpaired : entry.fieldId ∈ pairedFields (generateCandidates rules catalogs).1 ↔
      entry.fieldId ∈ pairedFields (pairAll rules ((catalogEntries catalogs).filter fun entry =>
        notJoinable entry.field = none)) := by
    rw [mem_pairedFields, mem_pairedFields]
    unfold generateCandidates
    simp only [mem_orderedBy]
  rw [if_congr hpaired rfl rfl]
  unfold generateCandidates
  dsimp only
  change List.filter _ (_ ++ List.map _ (List.filter (fun entry : CatalogEntry =>
    decide (entry.fieldId ∉ pairedFields _)) _)) = _
  generalize pairedFields _ = paired
  have hsame : ∀ (other : CatalogEntry) reason, (other.unexamined reason).fieldId =
      other.fieldId := fun _ _ => rfl
  have hexcluded : ((catalogEntries catalogs).filterMap fun entry =>
      (notJoinable entry.field).map entry.unexamined).filter
        (fun report => report.fieldId = entry.fieldId) =
      [entry].filterMap fun entry => (notJoinable entry.field).map entry.unexamined := by
    rw [← honly, List.filter_filterMap, List.filterMap_filter]
    refine List.filterMap_congr fun other _ => ?_
    cases notJoinable other.field with
    | none => simp
    | some reason =>
        by_cases hid : other.fieldId = entry.fieldId
        · simp [Option.filter, hsame, hid]
        · simp [Option.filter, hsame, hid]
  have halone : ∀ reason, ((((catalogEntries catalogs).filter fun entry =>
      notJoinable entry.field = none).filter fun entry => entry.fieldId ∉ paired).map
        (CatalogEntry.unexamined reason)).filter
          (fun report => report.fieldId = entry.fieldId) =
      (([entry].filter fun entry => notJoinable entry.field = none).filter fun entry =>
        entry.fieldId ∉ paired).map (CatalogEntry.unexamined reason) := by
    intro reason
    rw [← honly, List.filter_map]
    congr 1
    simp only [List.filter_filter]
    refine List.filter_congr fun other _ => ?_
    simp only [Function.comp_apply, hsame]
    ac_rfl
  rw [List.filter_append, hexcluded, halone]
  cases hjoinable : notJoinable entry.field with
  | some reason => simp [hjoinable]
  | none =>
      by_cases hin : entry.fieldId ∈ paired
      · simp [hjoinable, hin]
      · simp [hjoinable, hin]

/-- **Every field** is covered. -/
theorem field_covered (hdistinct : FieldsDistinct catalogs) (hentry : entry ∈ catalogEntries catalogs) :
    FieldCovered (generateCandidates rules catalogs) entry.fieldId := by
  unfold FieldCovered
  rw [filter_unexamined hdistinct hentry, ← mem_pairedFields]
  cases hjoinable : notJoinable entry.field with
  | some reason =>
      right
      refine ⟨?_, entry.unexamined reason, rfl, reason_ne_empty hjoinable⟩
      intro hpaired
      obtain ⟨candidate, hcandidate, htouches⟩ := mem_pairedFields.1 hpaired
      rw [joinable_of_touches hdistinct hentry hcandidate htouches] at hjoinable
      cases hjoinable
  | none =>
      dsimp only
      split
      next hpaired => exact .inl ⟨hpaired, rfl⟩
      next hpaired =>
        refine .inr ⟨hpaired, _, rfl, ?_⟩
        show "no type-compatible, name-similar counterpart found" ≠ ""
        decide

theorem not_within_table (hdistinct : FieldsDistinct catalogs)
    (h : candidate ∈ (generateCandidates rules catalogs).1) {catalog : UUID × CatalogVersion}
    (hcatalog : catalog ∈ catalogs) {table : SourceTable} (htable : table ∈ catalog.2.tables) :
    ¬ (candidate.leftField ∈ table.fields ∧ candidate.rightField ∈ table.fields) := by
  intro ⟨hinleft, hinright⟩
  obtain ⟨left, hleft, right, hright, -, -, hleftfield, hrightfield, hapart⟩ := candidate_sides h
  have hplace : ∀ field ∈ table.fields, ∀ entry ∈ catalogEntries catalogs, field = entry.field →
      entry.dataSourceId = catalog.1 ∧ entry.table = table := by
    intro field hfield entry hentry hsame
    have hmem : CatalogEntry.mk catalog.1 table field ∈ catalogEntries catalogs :=
      mem_catalogEntries.2 ⟨catalog.2, hcatalog, htable, hfield⟩
    have hid : entry.fieldId = (CatalogEntry.mk catalog.1 table field).fieldId := by
      unfold CatalogEntry.fieldId
      rw [hsame]
    rw [List.inj_on_of_nodup_map hdistinct hentry hmem hid]
    exact ⟨rfl, rfl⟩
  obtain ⟨hleftsource, hlefttable⟩ := hplace _ hinleft left hleft hleftfield
  obtain ⟨hrightsource, hrighttable⟩ := hplace _ hinright right hright hrightfield
  exact hapart ⟨hleftsource.trans hrightsource.symm, by rw [hlefttable, hrighttable]⟩

end Reports

/-- The same table, with its fields in another order. -/
def SourceTable.Reordered (table other : SourceTable) : Prop :=
  ∃ fields, table.fields.Perm fields ∧ other = { table with fields }

/-- The same version, with its tables and their fields in another order. -/
def CatalogVersion.Reordered (version other : CatalogVersion) : Prop :=
  ∃ tables reordered, List.Forall₂ SourceTable.Reordered version.tables tables ∧
    tables.Perm reordered ∧ other = { version with tables := reordered }

/-- The same catalogs, with the catalogs, the tables and the fields in another order. -/
def Reordered (catalogs others : List (UUID × CatalogVersion)) : Prop :=
  ∃ between, List.Forall₂ (fun catalog other : UUID × CatalogVersion =>
    catalog.1 = other.1 ∧ CatalogVersion.Reordered catalog.2 other.2) catalogs between ∧
      between.Perm others

section Order

variable {rules : TextRules} {lower : String → String}
  {catalogs others : List (UUID × CatalogVersion)} {pair : Sym2 UUID} {affinity : ℚ}

/-- Lists put together from parts that are permuted, one by one. -/
theorem perm_flatMap {α β γ : Type} {parts : α → List γ} {moved : β → List γ} {list : List α}
    {other : List β} (h : List.Forall₂ (fun a b => (parts a).Perm (moved b)) list other) :
    (list.flatMap parts).Perm (other.flatMap moved) := by
  induction h with
  | nil => exact .nil
  | cons hfirst _ ih =>
      rw [List.flatMap_cons, List.flatMap_cons]
      exact hfirst.append ih

/-- **The places** of the fields are the same, in another order. -/
theorem perm_places (h : Reordered catalogs others) :
    ((catalogEntries catalogs).map CatalogEntry.place).Perm
      ((catalogEntries others).map CatalogEntry.place) := by
  have hplaces : ∀ catalogs, (catalogEntries catalogs).map CatalogEntry.place =
      catalogs.flatMap fun catalog => catalog.2.tables.flatMap fun table =>
        table.fields.map fun field => ⟨catalog.1, table.tableId, table.name, field⟩ := by
    intro catalogs
    unfold catalogEntries
    simp only [List.map_flatMap, List.map_map]
    rfl
  rw [hplaces, hplaces]
  obtain ⟨between, hbetween, hperm⟩ := h
  refine List.Perm.trans (perm_flatMap (hbetween.imp ?_)) (hperm.flatMap_right _)
  intro catalog other hcatalog
  obtain ⟨hsource, tables, reordered, htables, hreordered, hother⟩ := hcatalog
  rw [hother, hsource]
  refine List.Perm.trans (perm_flatMap (htables.imp ?_)) (hreordered.flatMap_right _)
  intro table moved htable
  obtain ⟨fields, hfields, rfl⟩ := htable
  exact hfields.map _

/-- **The candidates** of catalogs, in terms of the places of their fields. -/
theorem exists_candidate_iff (hdistinct : FieldsDistinct catalogs) :
    (∃ candidate ∈ (generateCandidates (rules.named lower) catalogs).1,
        candidate.key = pair ∧ candidate.nameAffinity = affinity) ↔
      ∃ left ∈ (catalogEntries catalogs).map CatalogEntry.place,
        ∃ right ∈ (catalogEntries catalogs).map CatalogEntry.place,
          left.field.fieldId ≠ right.field.fieldId ∧ Joins lower left right affinity ∧
            s(left.field.fieldId, right.field.fieldId) = pair := by
  have hjoinable : (((catalogEntries catalogs).filter fun entry =>
      notJoinable entry.field = none).map CatalogEntry.fieldId).Nodup :=
    hdistinct.sublist (List.filter_sublist.map _)
  unfold generateCandidates
  simp only [mem_orderedBy]
  rw [exists_pairAll_iff hjoinable]
  constructor
  · intro ⟨left, hleft, right, hright, hjoined⟩
    exact ⟨left.place, List.mem_map_of_mem (List.mem_of_mem_filter hleft), right.place,
      List.mem_map_of_mem (List.mem_of_mem_filter hright), hjoined⟩
  · intro ⟨leftPlace, hleftPlace, rightPlace, hrightPlace, hne, hjoins, hpair⟩
    obtain ⟨left, hleft, rfl⟩ := List.mem_map.1 hleftPlace
    obtain ⟨right, hright, rfl⟩ := List.mem_map.1 hrightPlace
    have hleftjoinable := joinable_of_compatible rfl hjoins.compatible
    have hrightjoinable := joinable_of_compatible rfl (joins_symm hjoins).compatible
    exact ⟨left, List.mem_filter.2 ⟨hleft, decide_eq_true hleftjoinable⟩, right,
      List.mem_filter.2 ⟨hright, decide_eq_true hrightjoinable⟩, hne, hjoins, hpair⟩

theorem FieldsDistinct.reordered (hdistinct : FieldsDistinct catalogs)
    (h : Reordered catalogs others) : FieldsDistinct others := by
  have hids : ∀ catalogs, (catalogEntries catalogs).map CatalogEntry.fieldId =
      ((catalogEntries catalogs).map CatalogEntry.place).map fun place =>
        place.field.fieldId := by
    intro catalogs
    rw [List.map_map]
    rfl
  unfold FieldsDistinct at hdistinct ⊢
  rw [hids] at hdistinct ⊢
  exact ((perm_places h).map _).nodup_iff.1 hdistinct

end Order

/-- What `generate_candidates` makes of catalogs: every field is covered, no candidate is within
a table, the candidates and their affinities are the same in any other order of the catalogs,
and the strongest come first. -/
structure CandidatesCover (rules : TextRules) (catalogs : List (UUID × CatalogVersion)) :
    Prop where
  covered : ∀ catalog ∈ catalogs, ∀ table ∈ catalog.2.tables, ∀ field ∈ table.fields,
    FieldCovered (generateCandidates rules catalogs) field.fieldId
  apart : ∀ candidate ∈ (generateCandidates rules catalogs).1, ∀ catalog ∈ catalogs,
    ∀ table ∈ catalog.2.tables,
      ¬ (candidate.leftField ∈ table.fields ∧ candidate.rightField ∈ table.fields)
  independent : ∀ others, Reordered catalogs others → ∀ pair affinity,
    (∃ candidate ∈ (generateCandidates rules catalogs).1,
        candidate.key = pair ∧ candidate.nameAffinity = affinity) ↔
      ∃ candidate ∈ (generateCandidates rules others).1,
        candidate.key = pair ∧ candidate.nameAffinity = affinity
  sorted : (generateCandidates rules catalogs).1.Pairwise fun first second =>
    second.nameAffinity ≤ first.nameAffinity

/-- **Coverage**, over all catalogs with distinct fields. -/
theorem candidates_cover (rules : TextRules) (lower : String → String)
    {catalogs : List (UUID × CatalogVersion)} (hdistinct : FieldsDistinct catalogs) :
    CandidatesCover (rules.named lower) catalogs where
  covered := by
    intro catalog hcatalog table htable field hfield
    have hentry : CatalogEntry.mk catalog.1 table field ∈ catalogEntries catalogs :=
      mem_catalogEntries.2 ⟨catalog.2, hcatalog, htable, hfield⟩
    exact field_covered hdistinct hentry
  apart := fun _ hcandidate _ hcatalog _ htable =>
    not_within_table hdistinct hcandidate hcatalog htable
  independent := by
    intro others hreordered pair affinity
    rw [exists_candidate_iff hdistinct, exists_candidate_iff (hdistinct.reordered hreordered)]
    have hmem : ∀ place, place ∈ (catalogEntries catalogs).map CatalogEntry.place ↔
        place ∈ (catalogEntries others).map CatalogEntry.place :=
      fun _ => (perm_places hreordered).mem_iff
    simp only [hmem]
  sorted := orderedBy_pairwise.imp fun h => neg_le_neg_iff.1 h

/-- Customers and their orders. -/
def ordersCatalog : UUID × CatalogVersion :=
  (1, { catalogVersionId := 2, dataSourceId := 1, organizationId := 3, harvestRunId := 4,
        createdAt := 0
        tables := [
          { tableId := 5, name := "customers", database := "shop"
            fields := [⟨6, 5, "id", "UUID", .uuid, "uuid", false, 1, none⟩] },
          { tableId := 7, name := "orders", database := "shop"
            fields := [⟨8, 7, "customer_id", "String", .string, "string", false, 1, none⟩,
              ⟨9, 7, "placed_at", "DateTime", .temporal, "datetime", false, 2, none⟩] }] })

/-- The identifiers are covered by a candidate, and the time of the order is reported. -/
theorem orders_covered : CandidatesCover
    (TextRules.named ⟨fun _ => .string, PythonText.lower, fun _ _ _ _ => 0⟩ PythonText.lower)
    [ordersCatalog] :=
  candidates_cover _ _ (by decide)

end Connector

end Zentra
