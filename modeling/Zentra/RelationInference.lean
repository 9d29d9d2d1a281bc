import Zentra.JoinRelation

/-!
# Which pairs of fields are measured, and what a measurement means

`generate_candidates` pairs the fields of all the catalogs it is given, across their
sources; a pair that is compatible by type and similar by name is a candidate.  A
candidate whose values were compared is scored, or dropped below either floor.

* `pairUp_eq_some` — the two entries that a candidate was made of.

Numbers are exact: a float of the source is a rational here.  How types and names are
read is a parameter.
-/

open TableRows

namespace Zentra

namespace Connector

/-- What was found when the values of two fields were compared. -/
structure OverlapMeasurement where
  leftDistinct : Nat
  rightDistinct : Nat
  matchedDistinct : Nat
  sampledRows : Nat
  leftIsUnique : Bool := false
  rightIsUnique : Bool := false
  matched : matchedDistinct ≤ min leftDistinct rightDistinct := by decide
  deriving DecidableEq

namespace OverlapMeasurement

def minCardinality (overlap : OverlapMeasurement) : Nat :=
  min overlap.leftDistinct overlap.rightDistinct

/-- The share of the narrower side's values found on the other side. -/
def overlapFraction (overlap : OverlapMeasurement) : ℚ :=
  if overlap.minCardinality = 0 then 0 else overlap.matchedDistinct / overlap.minCardinality

end OverlapMeasurement

/-- `round(value, 4)`: the nearer of the two neighbours, the even one of two equally
near. -/
def round4 (value : ℚ) : ℚ :=
  let scaled := value * 10000
  let below := scaled.floor
  let rest := scaled - below
  if rest < 1 / 2 then below / 10000
  else if 1 / 2 < rest then (below + 1) / 10000
  else if below % 2 = 0 then below / 10000
  else (below + 1) / 10000

def sampleSizeCeiling (sampledRows : Nat) : ℚ :=
  if sampledRows < 100 then 1 / 2
  else if sampledRows < 1000 then 7 / 10
  else if sampledRows < 10000 then 17 / 20
  else 1

def cardinalityCeiling (distinctValues : Nat) : ℚ :=
  if distinctValues ≤ 2 then 1 / 10
  else if distinctValues ≤ 10 then 7 / 20
  else if distinctValues ≤ 100 then 3 / 5
  else if distinctValues ≤ 1000 then 4 / 5
  else 1

/-- A scored candidate and the reason it scored what it did. -/
structure ConfidenceAssessment where
  confidence : ℚ
  rawScore : ℚ
  bindingCeiling : BindingCeiling
  sampleCeiling : ℚ
  cardinalityCeilingValue : ℚ

def assess (nameAffinity : ℚ) (overlap : OverlapMeasurement) : ConfidenceAssessment :=
  let raw := 7 / 20 * nameAffinity + 13 / 20 * overlap.overlapFraction
  let sampleBound := sampleSizeCeiling overlap.sampledRows
  let cardinalityBound := cardinalityCeiling overlap.minCardinality
  let confidence := min raw (min sampleBound cardinalityBound)
  { confidence := round4 confidence
    rawScore := round4 raw
    bindingCeiling :=
      if confidence = raw then .none
      else if sampleBound ≤ cardinalityBound then .sampleSize
      else .cardinality
    sampleCeiling := sampleBound
    cardinalityCeilingValue := cardinalityBound }

def RelationEvidence.build (nameAffinity : ℚ) (overlap : OverlapMeasurement)
    (assessment : ConfidenceAssessment) : RelationEvidence where
  nameAffinity := round4 nameAffinity
  overlapFraction := round4 overlap.overlapFraction
  sampledRows := overlap.sampledRows
  leftDistinct := overlap.leftDistinct
  rightDistinct := overlap.rightDistinct
  matchedDistinct := overlap.matchedDistinct
  rawScore := assessment.rawScore
  sampleCeiling := assessment.sampleCeiling
  cardinalityCeiling := assessment.cardinalityCeilingValue

def inferCardinality (overlap : OverlapMeasurement) : Cardinality :=
  if overlap.leftIsUnique ∧ overlap.rightIsUnique then .oneToOne
  else if overlap.rightIsUnique then .manyToOne
  else if overlap.leftIsUnique then .oneToMany
  else .unknown

/-- How declared types and names are read. -/
structure TextRules where
  /-- `classify` -/
  classify : String → TypeFamily
  /-- `normalise_type` -/
  normaliseType : String → String
  /-- `name_affinity`, of a table and a field and another table and field -/
  nameAffinity : String → String → String → String → ℚ

/-- Two fields worth spending a query on. -/
structure CandidatePair where
  leftDataSourceId : UUID
  leftTable : SourceTable
  leftField : SourceField
  rightDataSourceId : UUID
  rightTable : SourceTable
  rightField : SourceField
  nameAffinity : ℚ
  deriving DecidableEq

namespace CandidatePair

def leftIdentity (candidate : CandidatePair) : FieldIdentity :=
  candidate.leftField.identity candidate.leftTable.name

def rightIdentity (candidate : CandidatePair) : FieldIdentity :=
  candidate.rightField.identity candidate.rightTable.name

/-- `frozenset({left_identity, right_identity})`. -/
def pair (candidate : CandidatePair) : Sym2 FieldIdentity :=
  s(candidate.leftIdentity, candidate.rightIdentity)

end CandidatePair

/-- A field that produced no candidates, and why. -/
structure UnexaminedField where
  fieldId : UUID
  qualifiedName : String
  reason : String
  deriving DecidableEq, Repr

/-- `_joinable`: the reason that excludes a field. -/
def notJoinable (field : SourceField) : Option String :=
  match field.family with
  | .float => some "float fields are not reliable join keys"
  | .temporal => some "temporal fields identify moments, not entities"
  | .boolean => some "boolean fields cannot identify anything"
  | .other => some "unrecognised type family"
  | _ => none

/-- `JOINABLE_FAMILIES`. -/
def joinableFamilies : List TypeFamily := [.integer, .string, .uuid, .decimal]

/-- `types_are_compatible`. -/
def TypesAreCompatible (left right : TypeFamily) : Prop :=
  left ∈ joinableFamilies ∧ right ∈ joinableFamilies ∧
    (left = right ∨ s(left, right) = s(.uuid, .string) ∨
      s(left, right) = s(.integer, .decimal))

instance (left right : TypeFamily) : Decidable (TypesAreCompatible left right) :=
  inferInstanceAs (Decidable (_ ∧ _ ∧ (_ ∨ _ ∨ _)))

/-- A field with its table and its data source. -/
structure CatalogEntry where
  dataSourceId : UUID
  table : SourceTable
  field : SourceField
  deriving DecidableEq

/-- The fields of the catalogs, source by source and table by table. -/
def catalogEntries (catalogs : List (UUID × CatalogVersion)) : List CatalogEntry :=
  catalogs.flatMap fun catalog => catalog.2.tables.flatMap fun table =>
    table.fields.map fun field => ⟨catalog.1, table, field⟩

def CatalogEntry.unexamined (reason : String) (entry : CatalogEntry) : UnexaminedField where
  fieldId := entry.field.fieldId
  qualifiedName := entry.table.name ++ "." ++ entry.field.name
  reason := reason

section Candidates

variable (rules : TextRules)

/-- A pair of entries, unless it is within a table, its types are not compatible or its
names share nothing. -/
def pairUp (left right : CatalogEntry) : Option CandidatePair :=
  if left.dataSourceId = right.dataSourceId ∧ left.table.tableId = right.table.tableId then
    none
  else if ¬ TypesAreCompatible left.field.family right.field.family then
    none
  else
    let affinity := rules.nameAffinity left.table.name left.field.name right.table.name
      right.field.name
    if affinity < 1 / 100 then
      none
    else
      some
        { leftDataSourceId := left.dataSourceId
          leftTable := left.table
          leftField := left.field
          rightDataSourceId := right.dataSourceId
          rightTable := right.table
          rightField := right.field
          nameAffinity := affinity }

/-- Each entry with every later one. -/
def pairAll : List CatalogEntry → List CandidatePair
  | [] => []
  | left :: rest => rest.filterMap (pairUp rules left) ++ pairAll rest

/-- Find every field pair worth measuring, the strongest names first; and the fields that
are in none. -/
def generateCandidates (catalogs : List (UUID × CatalogVersion)) :
    List CandidatePair × List UnexaminedField :=
  let all := catalogEntries catalogs
  let entries := all.filter fun entry => notJoinable entry.field = none
  let candidates := pairAll rules entries
  let paired := candidates.flatMap fun candidate =>
    [candidate.leftField.fieldId, candidate.rightField.fieldId]
  let excluded := all.filterMap fun entry => (notJoinable entry.field).map entry.unexamined
  let alone := (entries.filter fun entry => entry.field.fieldId ∉ paired).map
    (CatalogEntry.unexamined "no type-compatible, name-similar counterpart found")
  (orderedBy (fun candidate => -candidate.nameAffinity) candidates, excluded ++ alone)

/-- `coverage_summary`: how many fields were skipped, by why. -/
def coverageSummary (unexamined : List UnexaminedField) : List (String × Nat) :=
  unexamined.foldl (fun counts entry =>
    setItem Prod.fst counts (entry.reason, ((counts.lookup entry.reason).getD 0) + 1)) []

/-- A measured candidate, ready to become a proposed Relation. -/
structure ScoredCandidate where
  confidence : ℚ
  bindingCeiling : BindingCeiling
  cardinality : Cardinality
  evidence : RelationEvidence

/-- Turn a measurement into a proposal, or decide it is not one. -/
def scoreCandidate (candidate : CandidatePair) (overlap : OverlapMeasurement) :
    Option ScoredCandidate :=
  if overlap.overlapFraction < 1 / 2 then
    none
  else
    let assessment := assess candidate.nameAffinity overlap
    if assessment.confidence < 1 / 5 then
      none
    else
      some
        { confidence := assessment.confidence
          bindingCeiling := assessment.bindingCeiling
          cardinality := inferCardinality overlap
          evidence := RelationEvidence.build candidate.nameAffinity overlap assessment }

end Candidates

section Provenance

variable {rules : TextRules} {catalogs : List (UUID × CatalogVersion)}
  {candidate : CandidatePair} {left right : CatalogEntry} {entries : List CatalogEntry}

theorem mem_catalogEntries {entry : CatalogEntry} :
    entry ∈ catalogEntries catalogs ↔
      ∃ version, (entry.dataSourceId, version) ∈ catalogs ∧ entry.table ∈ version.tables ∧
        entry.field ∈ entry.table.fields := by
  unfold catalogEntries
  constructor
  · intro h
    obtain ⟨⟨dataSourceId, version⟩, hcatalog, h⟩ := List.mem_flatMap.1 h
    obtain ⟨table, htable, h⟩ := List.mem_flatMap.1 h
    obtain ⟨field, hfield, rfl⟩ := List.mem_map.1 h
    exact ⟨version, hcatalog, htable, hfield⟩
  · intro h
    obtain ⟨version, hcatalog, htable, hfield⟩ := h
    apply List.mem_flatMap.2
    refine ⟨_, hcatalog, List.mem_flatMap.2 ⟨_, htable, ?_⟩⟩
    exact List.mem_map.2 ⟨_, hfield, rfl⟩

theorem pairUp_eq_some (h : pairUp rules left right = some candidate) :
    candidate.leftDataSourceId = left.dataSourceId ∧ candidate.leftTable = left.table ∧
      candidate.leftField = left.field ∧
      candidate.rightDataSourceId = right.dataSourceId ∧
      candidate.rightTable = right.table ∧ candidate.rightField = right.field := by
  unfold pairUp at h
  split at h
  · cases h
  · split at h
    · cases h
    · simp only at h
      split at h
      · cases h
      · cases h
        exact ⟨rfl, rfl, rfl, rfl, rfl, rfl⟩

theorem mem_pairAll (h : candidate ∈ pairAll rules entries) :
    ∃ left ∈ entries, ∃ right ∈ entries, pairUp rules left right = some candidate := by
  induction entries with
  | nil => cases h
  | cons first rest ih =>
      rcases List.mem_append.1 h with h | h
      · obtain ⟨right, hright, hpair⟩ := List.mem_filterMap.1 h
        exact ⟨first, List.mem_cons_self, right, List.mem_cons_of_mem _ hright, hpair⟩
      · obtain ⟨left, hleft, right, hright, hpair⟩ := ih h
        exact ⟨left, List.mem_cons_of_mem _ hleft, right, List.mem_cons_of_mem _ hright,
          hpair⟩

end Provenance

end Connector

end Zentra
