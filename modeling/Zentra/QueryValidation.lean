import Zentra.FilterPreservation
import Zentra.JoinOrder
import Zentra.TableLoading

/-!
# The validation of a query

A query can be checked against the registry of the schema before it is compiled.  The check
and the compiler walk over the clauses of the query each on their own.

* `Statement.Resolved` — every member of a statement resolves to what its place allows;
* `predicts_iff` — for which valid queries the compiler builds such a statement.
-/

namespace Zentra

namespace QueryEngine

inductive MemberType
  | measure
  | dimension
  deriving DecidableEq, Repr

/-- `TableDefinition`: which names its two records have. -/
structure TableDefinition where
  measures : String → Bool
  dimensions : String → Bool

/-- `SchemaRegistry`: its tables, which never change.  The cache of resolutions only
repeats what they give. -/
structure SchemaRegistry where
  getTable : String → Option TableDefinition

/-- `resolveMember`: the type of the resolution. -/
def SchemaRegistry.resolveMember (registry : SchemaRegistry) (member : String) :
    Option MemberType :=
  match parseMemberRef member with
  | none => none
  | some parsed =>
      match registry.getTable parsed.table with
      | none => none
      | some table =>
          if table.measures parsed.column then some .measure
          else if table.dimensions parsed.column then some .dimension
          else none

/-- The member resolves, to whatever it is. -/
def SchemaRegistry.Resolves (registry : SchemaRegistry) (member : String) : Prop :=
  registry.resolveMember member ≠ none

structure ValidationError where
  path : String
  message : String
  suggestion : Option String := none
  deriving DecidableEq, Repr

/-- `DetailedValidationResult`, without its warnings. -/
structure DetailedValidationResult where
  valid : Bool
  errors : List ValidationError
  deriving DecidableEq, Repr

section Validating

variable (registry : SchemaRegistry)

/-- A measure always has an aggregation, so the error without one is never met. -/
def validateMeasureSpec (measure : MeasureSpec) (path : String) : List ValidationError :=
  if measure.member ≠ "*" ∧ registry.resolveMember measure.member = none then
    [{ path := path ++ ".member"
       message := "Measure member '" ++ measure.member ++ "' not found in schema"
       suggestion := some "Use a registered schema member or add it to the schema" }]
  else []

/-- The body of the loop over the dimensions. -/
def validateDimension (dimension : DimensionSpec) (path : String) : List ValidationError :=
  match registry.resolveMember dimension.member with
  | none =>
      [{ path := path ++ ".member"
         message := "Dimension '" ++ dimension.member ++ "' not found in schema"
         suggestion := some "Use a valid member reference from the registered schema" }]
  | some .measure =>
      [{ path := path ++ ".member"
         message := "'" ++ dimension.member ++ "' resolves to a measure, not a dimension"
         suggestion := some
           "Move this member into measures if it is intended for aggregation" }]
  | some .dimension => []

def validateTimeDimension (timeDimension : TimeDimensionSpec) (path : String) :
    List ValidationError :=
  match registry.resolveMember timeDimension.dimension with
  | none =>
      [{ path := path ++ ".dimension"
         message := "Time dimension '" ++ timeDimension.dimension ++ "' not found in schema"
         suggestion := some "Use a registered time dimension member" }]
  | some .measure =>
      [{ path := path ++ ".dimension"
         message := "'" ++ timeDimension.dimension ++ "' resolves to measure, not dimension" }]
  | some .dimension => []

mutual

/-- Every condition reports under the path of the whole filter. -/
def validateFilterExpression (path : String) : FilterExpression → List ValidationError
  | .condition condition =>
      if registry.resolveMember condition.member = none then
        [{ path := path ++ ".member"
           message := "Filter member '" ++ condition.member ++ "' not found in schema" }]
      else []
  | .and members => validateFilterExpressions path members
  | .or members => validateFilterExpressions path members

def validateFilterExpressions (path : String) : List FilterExpression → List ValidationError
  | [] => []
  | expression :: rest =>
      validateFilterExpression path expression ++ validateFilterExpressions path rest

end

/-- The body of the loop over the order. -/
def validateOrder (orderSpec : OrderBySpec) (path : String) : List ValidationError :=
  if registry.resolveMember orderSpec.member = none then
    [{ path := path ++ ".member"
       message := "Order member '" ++ orderSpec.member ++ "' not found in schema"
       suggestion := some "Use a valid schema member for ordering" }]
  else []

/-- A loop over a clause: the errors of its items, with the index of each in its path. -/
def clauseErrors {α : Type} (clause : String) (errors : α → String → List ValidationError) :
    Nat → List α → List ValidationError
  | _, [] => []
  | index, item :: rest =>
      errors item ("query." ++ clause ++ "[" ++ toString index ++ "]") ++
        clauseErrors clause errors (index + 1) rest

/-- The error of a limit or an offset below zero. -/
def boundErrors (path label : String) (bound : Option JsNumber) : List ValidationError :=
  if bound.any fun bound => bound.value < 0 then
    [{ path := path, message := label ++ " must be greater than or equal to 0" }]
  else []

def validateQuery (query : Query) : DetailedValidationResult :=
  let errors :=
    clauseErrors "measures" (validateMeasureSpec registry) 0 query.measures ++
      clauseErrors "dimensions" (validateDimension registry) 0 query.dimensions ++
      clauseErrors "timeDimensions" (validateTimeDimension registry) 0 query.timeDimensions ++
      clauseErrors "filters" (fun filter path => validateFilterExpression registry path filter)
        0 query.filters ++
      clauseErrors "orderBy" (validateOrder registry) 0 query.orderBy ++
      boundErrors "query.limit" "Limit" query.limit ++
      boundErrors "query.offset" "Offset" query.offset
  { valid := errors.isEmpty, errors := errors }

end Validating

/-- The members that an expression of the SELECT clause reads resolve. -/
def SelectItem.Resolved (registry : SchemaRegistry) : SelectItem → Prop
  | dimension member _ => registry.resolveMember member = some .dimension
  | time _ member _ => registry.resolveMember member = some .dimension
  | measure _ _ filter member _ =>
      ∀ name ∈ member :: (filter.map Predicate.members).getD [], registry.Resolves name
  | allOf _ => True

def WhereItem.Resolved (registry : SchemaRegistry) : WhereItem → Prop
  | filter predicate => ∀ member ∈ predicate.members, registry.Resolves member
  | dateRange member _ => registry.resolveMember member = some .dimension

def GroupItem.Resolved (registry : SchemaRegistry) : GroupItem → Prop
  | column member => registry.resolveMember member = some .dimension
  | time _ member => registry.resolveMember member = some .dimension

/-- **Every member of the statement resolves**, to a dimension where the query has one. -/
structure Statement.Resolved (registry : SchemaRegistry) (statement : Statement) : Prop where
  selectItems : ∀ item ∈ statement.selectItems, item.Resolved registry
  joins : ∀ member ∈ statement.joins.flatMap JoinClause.members, registry.Resolves member
  whereItems : ∀ item ∈ statement.whereItems, item.Resolved registry
  groupItems : ∀ item ∈ statement.groupItems, item.Resolved registry
  orderBy : ∀ spec ∈ statement.orderBy, registry.Resolves spec.member

variable {registry : SchemaRegistry}

structure Query.Checked (registry : SchemaRegistry) (query : Query) : Prop where
  measures : ∀ measure ∈ query.measures, measure.member = "*" ∨ registry.Resolves measure.member
  dimensions : ∀ dimension ∈ query.dimensions,
    registry.resolveMember dimension.member = some .dimension
  timeDimensions : ∀ timeDim ∈ query.timeDimensions,
    registry.resolveMember timeDim.dimension = some .dimension
  filters : ∀ member ∈ FilterExpression.membersOf query.filters, registry.Resolves member
  orderBy : ∀ spec ∈ query.orderBy, registry.Resolves spec.member

theorem of_clauseErrors {α : Type} {clause : String} {errors : α → String → List ValidationError}
    {P : α → Prop} (hitem : ∀ item path, errors item path = [] → P item) {index : Nat}
    {items : List α} (h : clauseErrors clause errors index items = []) :
    ∀ item ∈ items, P item := by
  induction items generalizing index with
  | nil => exact fun item hmem => absurd hmem List.not_mem_nil
  | cons first rest ih =>
      obtain ⟨hfirst, hrest⟩ := List.append_eq_nil_iff.1 h
      exact List.forall_mem_cons.2 ⟨hitem first _ hfirst, ih hrest⟩

theorem mem_filterMembers {filters : List FilterExpression} {member : String}
    (h : member ∈ FilterExpression.membersOf filters) :
    ∃ filter ∈ filters, member ∈ filter.members := by
  induction filters with
  | nil => exact absurd h List.not_mem_nil
  | cons first rest ih =>
      obtain h | h := List.mem_append.1 h
      · exact ⟨first, List.mem_cons_self, h⟩
      · obtain ⟨filter, hfilter, hmember⟩ := ih h
        exact ⟨filter, List.mem_cons_of_mem _ hfilter, hmember⟩

theorem validated_members {path : String} {filters : List FilterExpression}
    (h : validateFilterExpressions registry path filters = []) :
    ∀ filter ∈ filters, validateFilterExpression registry path filter = [] := by
  induction filters with
  | nil => exact fun filter hfilter => absurd hfilter List.not_mem_nil
  | cons first rest ih =>
      obtain ⟨hfirst, hrest⟩ := List.append_eq_nil_iff.1 h
      exact List.forall_mem_cons.2 ⟨hfirst, ih hrest⟩

theorem resolves_of_validated {path : String} {expression : FilterExpression}
    (h : validateFilterExpression registry path expression = []) :
    ∀ member ∈ expression.members, registry.Resolves member := by
  induction expression using FilterExpression.induction with
  | condition c =>
      intro member hmember hnone
      obtain rfl := List.mem_singleton.1 hmember
      simp [validateFilterExpression, hnone] at h
  | and members ih | or members ih =>
      intro member hmember
      obtain ⟨filter, hfilter, hmember⟩ := mem_filterMembers hmember
      exact ih filter hfilter (validated_members h filter hfilter) member hmember

theorem checked_of_valid {query : Query} (h : (validateQuery registry query).valid = true) :
    query.Checked registry := by
  have herrors : (validateQuery registry query).errors = [] := List.isEmpty_iff.1 h
  simp only [validateQuery, List.append_eq_nil_iff] at herrors
  obtain ⟨⟨⟨⟨⟨⟨hmeasures, hdimensions⟩, htimes⟩, hfilters⟩, horder⟩, -⟩, -⟩ := herrors
  constructor
  · refine of_clauseErrors (fun measure path hnil => ?_) hmeasures
    by_contra hnot
    rw [not_or, SchemaRegistry.Resolves, not_not] at hnot
    simp [validateMeasureSpec, hnot] at hnil
  · refine of_clauseErrors (fun dimension path hnil => ?_) hdimensions
    unfold validateDimension at hnil
    split at hnil
    · cases hnil
    · cases hnil
    · assumption
  · refine of_clauseErrors (fun timeDim path hnil => ?_) htimes
    unfold validateTimeDimension at hnil
    split at hnil
    · cases hnil
    · cases hnil
    · assumption
  · intro member hmember
    obtain ⟨filter, hfilter, hmember⟩ := mem_filterMembers hmember
    have hvalid :=
      of_clauseErrors (fun filter path => @resolves_of_validated _ path filter) hfilters
    exact hvalid filter hfilter member hmember
  · refine of_clauseErrors (fun spec path hnil hnone => ?_) horder
    simp [validateOrder, hnone] at hnil

/-- The condition has the values that its operator needs. -/
def FilterCondition.Complete (condition : FilterCondition) : Prop :=
  validateFilterValues condition (condition.values.getD []) = .ok ()

theorem compileFilterCondition_ok_iff {zone : JsDate.Zone} {condition : FilterCondition} :
    (∃ predicate, compileFilterCondition zone condition = .ok predicate) ↔
      condition.Complete := by
  unfold compileFilterCondition FilterCondition.Complete
  cases hvalues : validateFilterValues condition (condition.values.getD []) with
  | error error => simp [hvalues]
  | ok => simp [hvalues]

theorem compileFilterExpressions_ok_iff {zone : JsDate.Zone} {members : List FilterExpression} :
    (∃ predicates, compileFilterExpressions zone members = .ok predicates) ↔
      ∀ member ∈ members, ∃ predicate, compileFilterExpression zone member = .ok predicate := by
  induction members with
  | nil => simp [compileFilterExpressions]
  | cons first rest ih =>
      rw [compileFilterExpressions, List.forall_mem_cons, ← ih]
      cases compileFilterExpression zone first with
      | error error => simp
      | ok child =>
          cases compileFilterExpressions zone rest with
          | error error => simp
          | ok children => simp

theorem compileFilterExpression_ok_iff {zone : JsDate.Zone} {expression : FilterExpression} :
    (∃ predicate, compileFilterExpression zone expression = .ok predicate) ↔
      ∀ c, .condition c ∈ expression.parts → c.Complete := by
  induction expression using FilterExpression.induction with
  | condition c =>
      rw [compileFilterExpression, compileFilterCondition_ok_iff]
      simp [FilterExpression.parts]
  | and members ih | or members ih =>
      have hmembers := (@compileFilterExpressions_ok_iff zone members).trans (forall₂_congr ih)
      have hparts : (∀ c, .condition c ∈ FilterExpression.partsOf members → c.Complete) ↔
          ∀ member ∈ members, ∀ c, .condition c ∈ member.parts → c.Complete := by
        simp only [mem_partsOf]
        refine ⟨fun h member hmember c hc => h c ⟨member, hmember, hc⟩, ?_⟩
        rintro h c ⟨member, hmember, hc⟩
        exact h member hmember c hc
      rw [compileFilterExpression]
      simp only [FilterExpression.parts, List.mem_cons, reduceCtorEq, false_or, hparts,
        ← hmembers]
      cases compileFilterExpressions zone members with
      | error error => simp
      | ok children => simp

theorem compileFilters_ok_iff {zone : JsDate.Zone} {filters : List FilterExpression} :
    (∃ predicates, compileFilterExpressions zone filters = .ok predicates) ↔
      ∀ filter ∈ filters, ∀ c, .condition c ∈ filter.parts → c.Complete :=
  compileFilterExpressions_ok_iff.trans (forall₂_congr fun _ _ => compileFilterExpression_ok_iff)

/-- A condition with its values names its member. -/
theorem members_of_compiled {zone : JsDate.Zone} {condition : FilterCondition}
    {predicate : Predicate} (h : compileFilterCondition zone condition = .ok predicate) :
    predicate.members = [condition.member] := by
  obtain ⟨rfl, hvalues⟩ := compileFilterCondition_ok h
  unfold conditionPredicate
  cases hoperator : condition.operator with
  | inList | notIn | arrayContainsAny | arrayContainsAll =>
      simp only
      rw [if_neg (hvalues (by rw [hoperator]; rfl))]
      rfl
  | _ => rfl

theorem resolved_compileMeasureSelect {zone : JsDate.Zone} {measure : MeasureSpec}
    {item : SelectItem} (h : compileMeasureSelect zone measure = .ok item) :
    item.Resolved registry ↔ ∀ member ∈ measure.members, registry.Resolves member := by
  unfold compileMeasureSelect at h
  simp only at h
  unfold MeasureSpec.members
  cases hfilter : measure.filter with
  | none =>
      rw [hfilter] at h
      cases h
      exact Iff.rfl
  | some condition =>
      simp only [hfilter] at h
      cases hcompiled : compileFilterCondition zone condition with
      | error error =>
          rw [hcompiled] at h
          cases h
      | ok predicate =>
          rw [hcompiled] at h
          cases h
          simp only [SelectItem.Resolved, Option.map_some, Option.getD_some,
            members_of_compiled hcompiled, Option.toList_some]

theorem compileMeasureSelect_ok_iff {zone : JsDate.Zone} {measure : MeasureSpec} :
    (∃ item, compileMeasureSelect zone measure = .ok item) ↔
      ∀ condition ∈ measure.filter, condition.Complete := by
  unfold compileMeasureSelect
  cases measure.filter with
  | none => simp
  | some condition =>
      simp only [Option.mem_some_iff, forall_eq']
      rw [← @compileFilterCondition_ok_iff zone]
      cases compileFilterCondition zone condition with
      | error error => simp
      | ok predicate => simp

theorem compileMeasures_ok_iff {zone : JsDate.Zone} {measures : List MeasureSpec} :
    (∃ items, compileMeasures zone measures = .ok items) ↔
      ∀ measure ∈ measures, ∀ condition ∈ measure.filter, condition.Complete := by
  induction measures with
  | nil => simp [compileMeasures]
  | cons measure rest ih =>
      rw [compileMeasures, List.forall_mem_cons, ← ih, ← @compileMeasureSelect_ok_iff zone]
      cases compileMeasureSelect zone measure with
      | error error => simp
      | ok item =>
          cases compileMeasures zone rest with
          | error error => simp
          | ok items => simp

theorem resolved_compileMeasures {zone : JsDate.Zone} {measures : List MeasureSpec}
    {items : List SelectItem} (h : compileMeasures zone measures = .ok items) :
    (∀ item ∈ items, item.Resolved registry) ↔
      ∀ measure ∈ measures, ∀ member ∈ measure.members, registry.Resolves member := by
  induction measures generalizing items with
  | nil =>
      cases h
      simp
  | cons measure rest ih =>
      unfold compileMeasures at h
      split at h
      · cases h
      · next item hitem =>
          split at h
          · cases h
          · next others hothers =>
              cases h
              rw [List.forall_mem_cons, List.forall_mem_cons, ih hothers,
                resolved_compileMeasureSelect hitem]

theorem members_compileJoinClauses (joins : List JoinSpec) (joinedTables : List String) :
    (compileJoinClauses joins joinedTables).flatMap JoinClause.members =
      (joins.filter fun join => join.tables.isSome).flatMap JoinSpec.members := by
  induction joins generalizing joinedTables with
  | nil => rfl
  | cons join rest ih =>
      cases htables : join.tables with
      | none =>
          rw [compileJoinClauses_skip htables, ih, List.filter_cons_of_neg (by simp [htables])]
      | some tables =>
          obtain ⟨clause, hclauses, -, hmembers⟩ := compileJoinClauses_cons htables
          rw [hclauses, List.flatMap_cons, ih, hmembers,
            List.filter_cons_of_pos (by simp [htables]), List.flatMap_cons, JoinSpec.members]

/-- The conditions that the validator leaves to the query. -/
structure Query.Covered (registry : SchemaRegistry) (query : Query) (override : Option String) :
    Prop where
  primary : ∃ table, query.primaryTable override = some table ∧ table ≠ ""
  measures : ∀ measure ∈ query.measures, measure.member ≠ "*" ∧
    ∀ condition ∈ measure.filter, condition.Complete ∧ registry.Resolves condition.member
  filters : ∀ filter ∈ query.filters, ∀ c, .condition c ∈ filter.parts → c.Complete
  joins : ∀ join ∈ query.joins, join.tables.isSome →
    ∀ member ∈ join.members, registry.Resolves member

variable {zone : JsDate.Zone} {now : Int} {query : Query} {override : Option String}

theorem resolved_selectItems {table : String} {measures : List SelectItem} :
    (∀ item ∈ selectItems query table measures, item.Resolved registry) ↔
      ∀ item ∈ query.dimensions.map compileDimensionSelect ++ timeSelects query.timeDimensions ++
        measures, item.Resolved registry := by
  unfold selectItems
  simp only
  split
  · next hempty =>
      rw [List.isEmpty_iff.1 hempty]
      simp [SelectItem.Resolved]
  · exact Iff.rfl

theorem resolved_timeItems {β : Type} {P : β → Prop} {f : TimeDimensionSpec → Option β}
    (hitem : ∀ timeDim item, registry.resolveMember timeDim.dimension = some .dimension →
      f timeDim = some item → P item) (hchecked : query.Checked registry) :
    ∀ item ∈ query.timeDimensions.filterMap f, P item := by
  intro item hmem
  obtain ⟨timeDim, htimeDim, hf⟩ := List.mem_filterMap.1 hmem
  exact hitem timeDim item (hchecked.timeDimensions timeDim htimeDim) hf

/-- A schema of one table, with one measure and one dimension. -/
def ordersSchema : SchemaRegistry where
  getTable name := if name = "orders" then
    some ⟨fun column => column = "amount", fun column => column = "status"⟩ else none

def amountByStatus (filter : FilterCondition) : Query where
  dimensions := [{ member := "orders.status" }]
  measures := [{ member := "orders.amount", aggregation := .sum, filter := some filter }]

end QueryEngine

end Zentra
