import Zentra.DecisionEngine
import Zentra.FilterPreservation

/-!
# Filters on the way to the API

A query that the engine sends to the API takes its filters along as arguments: one argument
a column, next to the pagination.  An API that honours the arguments returns the records
whose columns equal them.

* `FiltersPreserved` — all filters can, next to the pagination, and no record that an API
  with these arguments returns is one that the filters exclude;
* `filters_preserved_iff` — the reads that keep their filters are those whose filters are
  such conditions, with a value, on columns that have no other use.
-/

open SqlText SqlLogic JsDate

namespace Zentra

namespace QueryEngine

/-- `ConvertedArgs`: the own properties of the object. -/
abbrev ConvertedArgs := String → Option FilterValue

/-- `args[key] = value`; the object has a setter under `__proto__`, and no property
comes of it. -/
def ConvertedArgs.assign (args : ConvertedArgs) (key : String) (value : FilterValue) :
    ConvertedArgs :=
  if key = "__proto__" then args else Function.update args key (some value)

def isConvertibleFilter : FilterExpression → Bool
  | .condition c => c.operator = .equals && (c.values.getD []).length = 1
  | .and _ | .or _ => false

/-- What a convertible filter writes: the column of its member, and its value. -/
def convertedArg : FilterExpression → Option (String × FilterValue)
  | .condition c =>
      if isConvertibleFilter (.condition c) then
        match parseMemberRef c.member, c.values with
        | some parsed, some [value] => some (parsed.column, value)
        | _, _ => none
      else none
  | .and _ | .or _ => none

/-- One round of the loop over the filters. -/
def convertFilter (args : ConvertedArgs) (filter : FilterExpression) : ConvertedArgs :=
  match convertedArg filter with
  | some (column, value) => args.assign column value
  | none => args

/-- The arguments that the pagination gives. -/
def paginationArgs (query : Query) : ConvertedArgs := fun key =>
  if key = "limit" then query.limit.map .number
  else if key = "offset" then query.offset.map .number
  else none

def convertFiltersToArgs (query : Query) : ConvertedArgs :=
  query.filters.foldl convertFilter (paginationArgs query)

def paginationKeys : List String := ["limit", "offset"]

def FilterExpression.Asks (filter : FilterExpression) (column : String) (value : FilterValue) :
    Prop :=
  ∃ c parsed, filter = .condition c ∧ c.operator = .equals ∧ c.values = some [value] ∧
    parseMemberRef c.member = some parsed ∧ parsed.column = column

/-- The filter can be read back from the arguments, under its own column. -/
def Expressed (args : ConvertedArgs) (filter : FilterExpression) : Prop :=
  ∃ column value, filter.Asks column value ∧ column ∉ paginationKeys ∧ args column = some value

abbrev ApiRecord := String → Cell

def ApiRecord.row (record : ApiRecord) : Row := fun member =>
  match parseMemberRef member with
  | some parsed => record parsed.column
  | none => .scalar none

/-- The record is one that an API with these arguments returns: its columns equal them. -/
def Honours (reading : Reading) (args : ConvertedArgs) (record : ApiRecord) : Prop :=
  ∀ column value, column ∉ paginationKeys → args column = some value →
    if value = .null then (record column).isNull = true
    else compareTruth reading .eq (record column) value = some true

/-- The filters select the row under their SQL meaning. -/
def Query.Selects (zone : Zone) (reading : Reading) (query : Query) (row : Row) : Prop :=
  ∀ filter ∈ query.filters, ∃ predicate,
    compileFilterExpression zone filter = .ok predicate ∧ predicate.Selects reading row

/-- **The arguments keep the filters.** -/
structure FiltersPreserved (query : Query) : Prop where
  expressed : ∀ filter ∈ query.filters, Expressed (convertFiltersToArgs query) filter
  limit : convertFiltersToArgs query "limit" = query.limit.map .number
  offset : convertFiltersToArgs query "offset" = query.offset.map .number
  excluded : ∀ zone reading record, ¬ query.Selects zone reading (ApiRecord.row record) →
    ¬ Honours reading (convertFiltersToArgs query) record

/-- The filters are `equals` conditions, each with one value other than NULL, on columns that
have no other use; those on one column ask for the same value. -/
structure SimpleFilters (query : Query) : Prop where
  simple : ∀ filter ∈ query.filters, ∃ column value, filter.Asks column value ∧
    value ≠ .null ∧ column ∉ paginationKeys ∧ column ≠ "__proto__"
  agree : ∀ filter ∈ query.filters, ∀ other ∈ query.filters, ∀ column value value',
    filter.Asks column value → other.Asks column value' → value = value'

section Converting

variable {query : Query} {filter : FilterExpression} {column : String} {value : FilterValue}

theorem convertedArg_eq_some :
    convertedArg filter = some (column, value) ↔ filter.Asks column value := by
  cases filter with
  | and members => simp [convertedArg, FilterExpression.Asks]
  | or members => simp [convertedArg, FilterExpression.Asks]
  | condition c =>
      constructor
      · intro h
        rw [convertedArg] at h
        split at h
        · rename_i hconvertible
          simp only [isConvertibleFilter, Bool.and_eq_true, decide_eq_true_eq] at hconvertible
          split at h
          · rename_i parsed v hparsed hvalues
            cases h
            exact ⟨c, parsed, rfl, hconvertible.1, hvalues, hparsed, rfl⟩
          · cases h
        · cases h
      · rintro ⟨c', parsed, hc, hoperator, hvalues, hparsed, rfl⟩
        cases hc
        simp [convertedArg, isConvertibleFilter, hoperator, hvalues, hparsed]

theorem convertFilter_apply (args : ConvertedArgs) (filter : FilterExpression) (key : String) :
    convertFilter args filter key = args key ∨
      ∃ value, filter.Asks key value ∧ key ≠ "__proto__" ∧
        convertFilter args filter key = some value := by
  cases harg : convertedArg filter with
  | none => exact .inl (by simp [convertFilter, harg])
  | some arg =>
      obtain ⟨column, value⟩ := arg
      have hasks := convertedArg_eq_some.1 harg
      simp only [convertFilter, harg, ConvertedArgs.assign]
      by_cases hproto : column = "__proto__"
      · exact .inl (by rw [if_pos hproto])
      · rw [if_neg hproto]
        by_cases hkey : key = column
        · subst hkey
          exact .inr ⟨value, hasks, hproto, by simp⟩
        · exact .inl (by rw [Function.update_of_ne hkey])

/-- A filter that asks for a value of a column writes it. -/
theorem convertFilter_of_asks {args : ConvertedArgs} (h : filter.Asks column value)
    (hproto : column ≠ "__proto__") : convertFilter args filter column = some value := by
  unfold convertFilter
  rw [convertedArg_eq_some.2 h]
  simp [ConvertedArgs.assign, hproto]

theorem foldl_convertFilter (filters : List FilterExpression) (args : ConvertedArgs)
    (key : String) :
    filters.foldl convertFilter args key = args key ∨
      ∃ filter ∈ filters, ∃ value, filter.Asks key value ∧ key ≠ "__proto__" ∧
        filters.foldl convertFilter args key = some value := by
  induction filters generalizing args with
  | nil => exact .inl rfl
  | cons head tail ih =>
      rw [List.foldl_cons]
      rcases ih (convertFilter args head) with htail | ⟨filter, hfilter, value, hasks, hvalue⟩
      · rcases convertFilter_apply args head key with hhead | ⟨value, hasks, hproto, hhead⟩
        · exact .inl (htail.trans hhead)
        · exact .inr ⟨head, List.mem_cons_self, value, hasks, hproto, htail.trans hhead⟩
      · exact .inr ⟨filter, List.mem_cons_of_mem _ hfilter, value, hasks, hvalue⟩

theorem foldl_convertFilter_of_asks {filters : List FilterExpression} (args : ConvertedArgs)
    (hmem : filter ∈ filters) (h : filter.Asks column value) (hproto : column ≠ "__proto__")
    (hagree : ∀ other ∈ filters, ∀ value', other.Asks column value' → value' = value) :
    filters.foldl convertFilter args column = some value := by
  induction filters generalizing args with
  | nil => cases hmem
  | cons head tail ih =>
      rw [List.foldl_cons]
      have hagree' := fun other hother => hagree other (List.mem_cons_of_mem head hother)
      rcases List.mem_cons.1 hmem with rfl | htail
      · rcases foldl_convertFilter tail (convertFilter args filter) column with hkept |
          ⟨other, hother, value', hasks, -, hvalue⟩
        · exact hkept.trans (convertFilter_of_asks h hproto)
        · rw [hvalue, hagree' other hother value' hasks]
      · exact ih (convertFilter args head) htail hagree'

theorem convertFiltersToArgs_proto (query : Query) :
    convertFiltersToArgs query "__proto__" = none := by
  rcases foldl_convertFilter query.filters (paginationArgs query) "__proto__" with hkept |
    ⟨_, _, _, _, hproto, _⟩
  · rw [convertFiltersToArgs, hkept]
    rfl
  · exact absurd rfl hproto

theorem selects_of_asks {zone : Zone} {reading : Reading} {record : ApiRecord}
    (h : filter.Asks column value) :
    (∃ predicate, compileFilterExpression zone filter = .ok predicate ∧
      predicate.Selects reading record.row) ↔
        compareTruth reading .eq (record column) value = some true := by
  obtain ⟨c, parsed, rfl, hoperator, hvalues, hparsed, rfl⟩ := h
  have hcompiles : compileFilterExpression zone (.condition c) =
      .ok (.compare .eq c.member value) := by
    simp [compileFilterExpression, compileFilterCondition, validateFilterValues,
      conditionPredicate, hoperator, hvalues]
  rw [hcompiles]
  simp [Predicate.Selects, Predicate.truth, ApiRecord.row, hparsed]

def describedRecord (args : ConvertedArgs) : ApiRecord := fun column =>
  .scalar ((args column).bind literal)

theorem honours_describedRecord (reading : Reading) (args : ConvertedArgs) :
    Honours reading args (describedRecord args) := by
  intro column value _ hvalue
  have hcell : describedRecord args column = .scalar (literal value) := by
    simp [describedRecord, hvalue]
  rw [hcell]
  split
  · rename_i hnull
    subst hnull
    rfl
  · rename_i hnull
    obtain ⟨x, hx⟩ : ∃ x, literal value = some x := by
      cases value with
      | null => exact absurd rfl hnull
      | string v => exact ⟨_, rfl⟩
      | number v => exact ⟨_, rfl⟩
      | boolean v => exact ⟨_, rfl⟩
      | date v => exact ⟨_, rfl⟩
    simp [compareTruth, hx, Cell.isNull, Cell.order, Comparison.holds, compareScalars_self]

theorem simple_of_preserved (h : FiltersPreserved query) : SimpleFilters query := by
  have hread : ∀ filter ∈ query.filters, ∀ column value, filter.Asks column value →
      column ∉ paginationKeys ∧ convertFiltersToArgs query column = some value := by
    intro filter hfilter column value hasks
    obtain ⟨column', value', hasks', hkey, hvalue⟩ := h.expressed filter hfilter
    have hsame := (convertedArg_eq_some.2 hasks).symm.trans (convertedArg_eq_some.2 hasks')
    cases hsame
    exact ⟨hkey, hvalue⟩
  constructor
  · intro filter hfilter
    obtain ⟨column, value, hasks, hkey, hvalue⟩ := h.expressed filter hfilter
    refine ⟨column, value, hasks, ?_, hkey, ?_⟩
    · rintro rfl
      have hselects : query.Selects utc asciiReading
          (describedRecord (convertFiltersToArgs query)).row := by
        by_contra hexcluded
        exact h.excluded _ _ _ hexcluded (honours_describedRecord _ _)
      have htruth := (selects_of_asks hasks).1 (hselects filter hfilter)
      simp [compareTruth, literal] at htruth
    · rintro rfl
      rw [convertFiltersToArgs_proto] at hvalue
      cases hvalue
  · intro filter hfilter other hother column value value' hasks hasks'
    have hvalue := (hread filter hfilter column value hasks).2
    have hvalue' := (hread other hother column value' hasks').2
    exact Option.some.inj (hvalue.symm.trans hvalue')

theorem read_of_simple (h : SimpleFilters query) (hfilter : filter ∈ query.filters) :
    ∃ column value, filter.Asks column value ∧ value ≠ .null ∧ column ∉ paginationKeys ∧
      convertFiltersToArgs query column = some value := by
  obtain ⟨column, value, hasks, hnull, hkey, hproto⟩ := h.simple filter hfilter
  refine ⟨column, value, hasks, hnull, hkey, ?_⟩
  exact foldl_convertFilter_of_asks _ hfilter hasks hproto fun other hother value' hasks' =>
    h.agree other hother filter hfilter column value' value hasks' hasks

theorem pagination_of_simple (h : SimpleFilters query) {key : String}
    (hkey : key ∈ paginationKeys) : convertFiltersToArgs query key = paginationArgs query key := by
  rcases foldl_convertFilter query.filters (paginationArgs query) key with hkept |
    ⟨filter, hfilter, value, hasks, -, -⟩
  · exact hkept
  · obtain ⟨column, value', hasks', -, hcolumn, -⟩ := h.simple filter hfilter
    have hsame := (convertedArg_eq_some.2 hasks).symm.trans (convertedArg_eq_some.2 hasks')
    cases hsame
    exact absurd hkey hcolumn

theorem preserved_of_simple (h : SimpleFilters query) : FiltersPreserved query := by
  refine ⟨fun filter hfilter => ?_, ?_, ?_, ?_⟩
  · obtain ⟨column, value, hasks, -, hkey, hvalue⟩ := read_of_simple h hfilter
    exact ⟨column, value, hasks, hkey, hvalue⟩
  · rw [pagination_of_simple h (by simp [paginationKeys])]
    rfl
  · rw [pagination_of_simple h (by simp [paginationKeys])]
    rfl
  · intro zone reading record hexcluded hhonours
    refine hexcluded fun filter hfilter => ?_
    obtain ⟨column, value, hasks, hnull, hkey, hvalue⟩ := read_of_simple h hfilter
    have hcell := hhonours column value hkey hvalue
    rw [if_neg hnull] at hcell
    exact (selects_of_asks hasks).2 hcell

end Converting

/-- **A read keeps its filters on the API iff they are simple.**  The engine sends reads
there that nothing but their filters distinguishes from those it answers itself. -/
theorem filters_preserved_iff (query : Query) (context : Routing.DecisionContext)
    (options : Routing.DecisionOptions) :
    (Routing.Routed query context options → FiltersPreserved query) ↔
      (Routing.TransactionalRead query context options → SimpleFilters query) := by
  rw [Routing.routed_iff]
  refine imp_congr_right fun _ => ?_
  exact ⟨simple_of_preserved, preserved_of_simple⟩

/-- `{ member: 'users.age', operator: 'gt', values: [18] }`. -/
def adults : Query where
  filters := [.condition {
    member := "users.age"
    operator := .gt
    values := some [.number ⟨18, "18", by decide⟩] }]

def listedUsers : Routing.DecisionContext where
  tables := ["users"]
  operation := .list
  tableConfigs table :=
    if table = "users" then some { source := some "api", api := some { list := true } } else none

/-- The comparison is dropped on the way to the API. -/
theorem filters_dropped : ¬ ∀ query context options,
    Routing.Routed query context options → FiltersPreserved query := by
  intro h
  have hrouted : Routing.Routed adults listedUsers {} := ⟨rfl, rfl, _, rfl, rfl⟩
  obtain ⟨column, value, ⟨c, parsed, hc, hoperator, -⟩, -, -⟩ :=
    (h adults listedUsers {} hrouted).expressed _ (List.mem_singleton_self _)
  cases hc
  cases hoperator

end QueryEngine

end Zentra
