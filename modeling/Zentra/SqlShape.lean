import Zentra.FilterMeaning
import Zentra.TableLoading

/-!
# The shape of a query

A query without what its strings contain, and the texts that depend on nothing else.
Identifiers and filter values are enclosed in quotes with the quotes inside doubled, so
each is one piece of the text whatever it contains.

* `compileFilterExpression_shape`, `compileMeasures_shape` — the shape of what compiles
  does;
* `alike_sql` — the text of a query without such ranges scans like that of its shape.
-/

open SqlText SqlLogic JsDate

namespace Zentra

namespace QueryEngine

/-- A member without its identifiers: a table and a column, or neither. -/
def memberShape (member : String) : String :=
  if (parseMemberRef member).isSome then "t.c" else ""

def FilterValue.shape : FilterValue → FilterValue
  | string _ => string ""
  | value => value

def FilterCondition.shape (condition : FilterCondition) : FilterCondition where
  member := memberShape condition.member
  operator := condition.operator
  values := condition.values.map (List.map FilterValue.shape)
  caseInsensitive := condition.caseInsensitive

mutual

def FilterExpression.shape : FilterExpression → FilterExpression
  | .condition c => .condition c.shape
  | .and members => .and (FilterExpression.shapes members)
  | .or members => .or (FilterExpression.shapes members)

def FilterExpression.shapes : List FilterExpression → List FilterExpression
  | [] => []
  | expression :: rest => expression.shape :: FilterExpression.shapes rest

end

def DimensionSpec.shape (dimension : DimensionSpec) : DimensionSpec where
  member := memberShape dimension.member
  aliasName := dimension.aliasName.map fun _ => ""

def MeasureSpec.shape (measure : MeasureSpec) : MeasureSpec where
  member := memberShape measure.member
  aggregation := measure.aggregation
  aliasName := measure.aliasName.map fun _ => ""
  distinct := measure.distinct
  filter := measure.filter.map FilterCondition.shape

def JoinCondition.shape (condition : JoinCondition) : JoinCondition where
  left := memberShape condition.left
  right := memberShape condition.right

def JoinSpec.shape (join : JoinSpec) : JoinSpec where
  left := memberShape join.left
  right := memberShape join.right
  type := join.type
  additionalConditions := join.additionalConditions.map (List.map JoinCondition.shape)

def OrderBySpec.shape (spec : OrderBySpec) : OrderBySpec where
  member := memberShape spec.member
  direction := spec.direction
  nulls := spec.nulls

def DateRangeSpec.shape : DateRangeSpec → DateRangeSpec
  | absolute _ _ => absolute "" ""
  | tuple _ _ => tuple "" ""
  | range => range

def TimeDimensionSpec.shape (timeDim : TimeDimensionSpec) : TimeDimensionSpec where
  dimension := memberShape timeDim.dimension
  granularity := timeDim.granularity
  dateRange := timeDim.dateRange.map DateRangeSpec.shape

/-- The query without what its strings contain.  Two queries of one shape differ in the
contents of their strings only. -/
def Query.shape (query : Query) : Query where
  dimensions := query.dimensions.map DimensionSpec.shape
  measures := query.measures.map MeasureSpec.shape
  filters := FilterExpression.shapes query.filters
  joins := query.joins.map JoinSpec.shape
  orderBy := query.orderBy.map OrderBySpec.shape
  timeDimensions := query.timeDimensions.map TimeDimensionSpec.shape
  limit := query.limit
  offset := query.offset

/-- The ranges whose bounds are strings of the query. -/
def DateRangeSpec.Verbatim : DateRangeSpec → Prop
  | absolute _ _ => True
  | tuple _ _ => True
  | _ => False

theorem isSome_memberShape (member : String) :
    (parseMemberRef (memberShape member)).isSome = (parseMemberRef member).isSome := by
  by_cases h : (parseMemberRef member).isSome = true
  · rw [memberShape, if_pos h, h]
    decide
  · rw [memberShape, if_neg h]
    have hnone : (parseMemberRef member).isSome = false := by simpa using h
    rw [hnone]
    decide

theorem alike_quoteIdentifier (a b : String) : Alike (quoteIdentifier a) (quoteIdentifier b) :=
  alike_quoted (by rw [quoteIdentifier, String.toList_ofList])
    (by rw [quoteIdentifier, String.toList_ofList])

theorem alike_quoteMemberRef {a b : String}
    (h : (parseMemberRef a).isSome = (parseMemberRef b).isSome) :
    Alike (quoteMemberRef a) (quoteMemberRef b) := by
  unfold quoteMemberRef
  cases ha : parseMemberRef a with
  | none =>
      cases hb : parseMemberRef b with
      | none => exact alike_quoteIdentifier a b
      | some parsed => simp [ha, hb] at h
  | some parsedA =>
      cases hb : parseMemberRef b with
      | none => simp [ha, hb] at h
      | some parsedB =>
          exact (alike_quoteIdentifier _ _).append (by decide) (alike_quoteIdentifier _ _)

theorem alike_member (member : String) :
    Alike (quoteMemberRef member) (quoteMemberRef (memberShape member)) :=
  alike_quoteMemberRef (isSome_memberShape member).symm

theorem ne_quote_of_momentChar {c : Char} (h : MomentChar c) : c ≠ '\'' ∧ c ≠ '"' := by
  obtain (hdigit | rfl | rfl) | rfl | rfl | rfl | rfl := h
  · constructor
    · rintro rfl
      exact absurd hdigit (by decide)
    · rintro rfl
      exact absurd hdigit (by decide)
  all_goals decide

theorem alike_between {text : String} (h : Plain text.toList) :
    Alike ("'" ++ text ++ "'") ("'" ++ text ++ "'") := by
  have hquote : '\'' ∉ text.toList := fun hmem => (h _ hmem).1 rfl
  have henclosed : ("'" ++ text ++ "'").toList = enclosed '\'' text.toList := by
    rw [enclosed, doubled_of_notMem hquote]
    simp
  exact alike_literal henclosed henclosed

theorem alike_formatValue (value : FilterValue) :
    Alike (formatValue value) (formatValue value.shape) := by
  cases value with
  | null => exact alike_plain (by decide)
  | string v =>
      exact alike_literal (by rw [formatValue, String.toList_ofList])
        (by rw [FilterValue.shape, formatValue, String.toList_ofList])
  | number v => exact alike_plain v.plain
  | boolean v => cases v <;> exact alike_plain (by decide)
  | date v =>
      exact alike_between fun c hc => ne_quote_of_momentChar (momentChar_toISOString hc)

theorem alike_formatValues (values : List FilterValue) :
    Alike (formatValues values) (formatValues (values.map FilterValue.shape)) := by
  have hall : List.Forall₂ Alike (values.map formatValue)
      (values.map fun value => formatValue value.shape) :=
    forall₂_alike_map fun value _ => alike_formatValue value
  simpa [formatValues, Function.comp_def] using Alike.intercalate (s := ", ") hall (by decide)

/-- Whatever it is to be found, a pattern is one literal. -/
theorem alike_buildLikePattern (operator : LikePatternOperator) (a b : String) :
    Alike (buildLikePattern a operator) (buildLikePattern b operator) :=
  alike_literal (buildLikePattern_toList a operator) (buildLikePattern_toList b operator)

section Conditions

variable {zone : Zone} (member : String)

theorem alike_compare (comparison : Comparison) (value : FilterValue) :
    Alike (Predicate.compare comparison member value).text
      (Predicate.compare comparison (memberShape member) value.shape).text := by
  have hsymbol : Separator comparison.symbol := by cases comparison <;> decide
  simp only [Predicate.text]
  exact (((alike_member member).followed (by decide)).followed hsymbol).append (by decide)
    (alike_formatValue value)

theorem alike_betweenValues (low high : FilterValue) :
    Alike (Predicate.between member low high).text
      (Predicate.between (memberShape member) low.shape high.shape).text := by
  simp only [Predicate.text]
  exact ((alike_member member).append (by decide) (alike_formatValue low)).append (by decide)
    (alike_formatValue high)

theorem alike_isIn (negated : Bool) (values : List FilterValue) :
    Alike (Predicate.isIn negated member values).text
      (Predicate.isIn negated (memberShape member) (values.map FilterValue.shape)).text := by
  have hspace := (alike_member member).followed (s := " ") (by decide)
  have hin : Separator "IN (" := by decide
  have hvalues := alike_formatValues values
  simp only [Predicate.text]
  cases negated with
  | false =>
      have hopen := hspace.append hin hvalues
      simpa [notText] using hopen.followed (s := ")") (by decide)
  | true =>
      have hopen := (hspace.followed (s := "NOT ") (by decide)).append hin hvalues
      exact hopen.followed (by decide)

theorem alike_like (negated : Bool) (operator : LikePatternOperator) (value other : String) :
    Alike (Predicate.like negated member operator value).text
      (Predicate.like negated (memberShape member) operator other).text := by
  have hspace := (alike_member member).followed (s := " ") (by decide)
  have hpattern := alike_buildLikePattern operator value other
  have hescape : Alike "'\\'" "'\\'" := by decide
  have htext : " ESCAPE '\\'" = " ESCAPE " ++ "'\\'" := by decide
  simp only [Predicate.text, htext, ← String.append_assoc]
  cases negated with
  | false =>
      have hlike := hspace.append (s := "LIKE ") (by decide) hpattern
      simpa [notText] using hlike.append (s := " ESCAPE ") (by decide) hescape
  | true =>
      have hlike := (hspace.followed (s := "NOT ") (by decide)).append (s := "LIKE ")
        (by decide) hpattern
      exact hlike.append (by decide) hescape

theorem alike_isNull (negated : Bool) :
    Alike (Predicate.isNull negated member).text
      (Predicate.isNull negated (memberShape member)).text := by
  have his := (alike_member member).followed (s := " IS ") (by decide)
  simp only [Predicate.text]
  cases negated with
  | false => simpa [notText] using his.followed (s := "NULL") (by decide)
  | true => exact (his.followed (by decide)).followed (by decide)

theorem alike_function {opening between closing a b : String} (hopening : Plain opening.toList)
    (hbetween : Separator between) (h : Alike a b) (hclosing : Separator closing) :
    Alike (opening ++ quoteMemberRef member ++ between ++ a ++ closing)
      (opening ++ quoteMemberRef (memberShape member) ++ between ++ b ++ closing) :=
  ((((alike_member member).preceded hopening)).append hbetween h).followed hclosing

theorem alike_constant (value : Bool) :
    Alike (Predicate.constant value).text (Predicate.constant value).text := by
  cases value <;> exact alike_plain (by decide)

theorem alike_conditionPredicate (condition : FilterCondition) (values : List FilterValue) :
    Alike (conditionPredicate zone condition values).text
      (conditionPredicate zone condition.shape (values.map FilterValue.shape)).text := by
  have hfirst : (values.map FilterValue.shape).headD .null = (values.headD .null).shape := by
    cases values <;> rfl
  have hsecond : ((values.map FilterValue.shape).drop 1).headD .null =
      ((values.drop 1).headD .null).shape := by
    cases values with
    | nil => rfl
    | cons value rest => cases rest <;> rfl
  obtain ⟨member, operator, given, caseInsensitive⟩ := condition
  unfold conditionPredicate
  rw [hfirst, hsecond]
  cases operator with
  | equals => exact alike_compare member .eq _
  | notEquals => exact alike_compare member .ne _
  | gt => exact alike_compare member .gt _
  | gte => exact alike_compare member .ge _
  | lt => exact alike_compare member .lt _
  | lte => exact alike_compare member .le _
  | between => exact alike_betweenValues member _ _
  | contains => exact alike_like member false .contains _ _
  | notContains => exact alike_like member true .contains _ _
  | startsWith => exact alike_like member false .startsWith _ _
  | endsWith => exact alike_like member false .endsWith _ _
  | matchesRegex =>
      exact (alike_member member).append (by decide) (alike_formatValue _)
  | inList =>
      cases values with
      | nil => exact alike_constant false
      | cons value rest => exact alike_isIn member false (value :: rest)
  | notIn =>
      cases values with
      | nil => exact alike_constant true
      | cons value rest => exact alike_isIn member true (value :: rest)
  | isNull => exact alike_isNull member false
  | isNotNull => exact alike_isNull member true
  | arrayContains =>
      exact alike_function member (by decide) (by decide) (alike_formatValue _) (by decide)
  | arrayContainsAny =>
      cases values with
      | nil => exact alike_constant false
      | cons value rest =>
          exact alike_function member (by decide) (by decide)
            (alike_formatValues (value :: rest)) (by decide)
  | arrayContainsAll =>
      cases values with
      | nil => exact alike_constant true
      | cons value rest =>
          exact alike_function member (by decide) (by decide)
            (alike_formatValues (value :: rest)) (by decide)

theorem validateFilterValues_ok {condition : FilterCondition} {values : List FilterValue} :
    validateFilterValues condition values = .ok () ↔
      (operatorRequiresValues condition.operator = true →
        values.length ≠ 0 ∧ (condition.operator = .between → 2 ≤ values.length)) := by
  have hnil : values = [] ↔ values.length = 0 := List.length_eq_zero_iff.symm
  by_cases hrequires : operatorRequiresValues condition.operator = true
  · by_cases hempty : values.length = 0
    · simp [validateFilterValues, hrequires, hnil, hempty]
    · by_cases hshort : condition.operator = .between ∧ values.length < 2
      · have hlong : ¬ 2 ≤ values.length := by omega
        simp only [validateFilterValues, hnil, hempty, hshort, hlong]
        simp
      · have hlong : condition.operator = .between → 2 ≤ values.length := by
          intro hoperator
          by_contra hlt
          exact hshort ⟨hoperator, by omega⟩
        simp only [validateFilterValues, hrequires, hnil, hempty, hshort]
        simpa [mt List.length_eq_zero_iff.2 hempty] using hlong
  · simp [validateFilterValues, hrequires]

theorem compileFilterCondition_shape {condition : FilterCondition} {predicate : Predicate}
    (h : compileFilterCondition zone condition = .ok predicate) :
    ∃ other, compileFilterCondition zone condition.shape = .ok other ∧
      Alike predicate.text other.text := by
  have hgiven : condition.shape.values.getD [] = (condition.values.getD []).map
      FilterValue.shape := by
    cases hvalues : condition.values <;> simp [FilterCondition.shape, hvalues]
  unfold compileFilterCondition at h ⊢
  rw [hgiven]
  cases hvalid : validateFilterValues condition (condition.values.getD []) with
  | error error => simp [hvalid] at h
  | ok u =>
      have hshape : validateFilterValues condition.shape
          ((condition.values.getD []).map FilterValue.shape) = .ok () := by
        have hlengths := validateFilterValues_ok.1 hvalid
        rw [validateFilterValues_ok, List.length_map]
        exact hlengths
      simp only [hvalid, Except.ok.injEq] at h
      subst h
      simp only [hshape]
      exact ⟨_, rfl, alike_conditionPredicate condition _⟩

end Conditions

section Groups

variable {zone : Zone}

theorem texts_eq_map (predicates : List Predicate) :
    Predicate.texts predicates = predicates.map Predicate.text := by
  induction predicates with
  | nil => rfl
  | cons predicate rest ih => rw [Predicate.texts, ih, List.map_cons]

/-- Conditions whose texts scan alike. -/
def Predicate.AlikeTo (a b : Predicate) : Prop := Alike a.text b.text

theorem forall₂_texts {as bs : List Predicate} (h : List.Forall₂ Predicate.AlikeTo as bs) :
    List.Forall₂ Alike (Predicate.texts as) (Predicate.texts bs) := by
  rw [texts_eq_map, texts_eq_map, List.forall₂_map_left_iff, List.forall₂_map_right_iff]
  exact h

/-- A group in parentheses, or what stands for a group of one or none. -/
theorem alike_group {group : List Predicate → Predicate} {separator : String}
    (hseparator : Separator separator)
    (hgroup : ∀ predicates, (group predicates).text =
      "(" ++ separator.intercalate (Predicate.texts predicates) ++ ")")
    {as bs : List Predicate} (h : List.Forall₂ Predicate.AlikeTo as bs) :
    (groupPredicate group as).AlikeTo (groupPredicate group bs) := by
  cases h with
  | nil => exact alike_constant true
  | cons hhead htail =>
      cases htail with
      | nil => exact hhead
      | cons hnext hrest =>
          have hall := forall₂_texts (.cons hhead (.cons hnext hrest))
          unfold Predicate.AlikeTo
          simp only [groupPredicate, hgroup]
          exact ((Alike.intercalate hall hseparator).preceded (by decide)).followed (by decide)

theorem compileFilterExpressions_shape {members : List FilterExpression}
    (hmembers : ∀ member ∈ members, ∀ predicate,
      compileFilterExpression zone member = .ok predicate →
        ∃ other, compileFilterExpression zone member.shape = .ok other ∧
          predicate.AlikeTo other)
    {predicates : List Predicate} (h : compileFilterExpressions zone members = .ok predicates) :
    ∃ others, compileFilterExpressions zone (FilterExpression.shapes members) = .ok others ∧
      List.Forall₂ Predicate.AlikeTo predicates others := by
  induction members generalizing predicates with
  | nil =>
      rw [compileFilterExpressions] at h
      cases h
      exact ⟨[], rfl, .nil⟩
  | cons head tail ih =>
      cases compileFilterExpressions_ok h with
      | cons hhead htail =>
          rw [compileFilterExpressions, hhead] at h
          cases hrest : compileFilterExpressions zone tail with
          | error error => simp [hrest] at h
          | ok children =>
              simp only [hrest, Except.ok.injEq] at h
              obtain ⟨other, hother, halike⟩ := hmembers head List.mem_cons_self _ hhead
              obtain ⟨others, hothers, hall⟩ :=
                ih (fun member hmember => hmembers member (List.mem_cons_of_mem _ hmember)) hrest
              refine ⟨other :: others, ?_, h ▸ .cons halike hall⟩
              rw [FilterExpression.shapes, compileFilterExpressions, hother, hothers]

/-- **Filters.**  The shape of a filter that compiles does, to a text that scans alike. -/
theorem compileFilterExpression_shape (expression : FilterExpression) (predicate : Predicate)
    (h : compileFilterExpression zone expression = .ok predicate) :
    ∃ other, compileFilterExpression zone expression.shape = .ok other ∧
      predicate.AlikeTo other := by
  induction expression using FilterExpression.induction generalizing predicate with
  | condition c => exact compileFilterCondition_shape h
  | and members ih =>
      obtain ⟨children, hchildren, rfl⟩ := compile_and_ok h
      obtain ⟨others, hothers, hall⟩ := compileFilterExpressions_shape ih hchildren
      refine ⟨groupPredicate .and others, ?_, alike_group (by decide) (fun _ => rfl) hall⟩
      rw [FilterExpression.shape, compileFilterExpression, hothers]
  | or members ih =>
      obtain ⟨children, hchildren, rfl⟩ := compile_or_ok h
      obtain ⟨others, hothers, hall⟩ := compileFilterExpressions_shape ih hchildren
      refine ⟨groupPredicate .or others, ?_, alike_group (by decide) (fun _ => rfl) hall⟩
      rw [FilterExpression.shape, compileFilterExpression, hothers]

end Groups

section Clauses

variable {zone : Zone}

theorem alike_dimension (dimension : DimensionSpec) :
    Alike (compileDimensionSelect dimension).text
      (compileDimensionSelect dimension.shape).text :=
  (alike_member dimension.member).append (by decide) (alike_quoteIdentifier _ _)

theorem alike_dateTrunc (unit : TimeGranularity) (member : String) :
    Alike (dateTrunc unit member) (dateTrunc unit (memberShape member)) := by
  have hunit : Alike ("DATE_TRUNC('" ++ getDateTruncUnit unit ++ "'")
      ("DATE_TRUNC('" ++ getDateTruncUnit unit ++ "'") := by
    cases unit <;> decide
  have htext : ∀ a, "DATE_TRUNC('" ++ getDateTruncUnit unit ++ "', " ++ a ++ ")" =
      "DATE_TRUNC('" ++ getDateTruncUnit unit ++ "'" ++ ", " ++ a ++ ")" := by
    intro a
    have hcomma : "', " = "'" ++ ", " := by decide
    rw [hcomma, ← String.append_assoc]
  unfold dateTrunc
  rw [htext, htext]
  exact (hunit.append (by decide) (alike_member member)).followed (by decide)

theorem alike_timeSelect (timeDim : TimeDimensionSpec) (granularity : TimeGranularity) :
    Alike (compileTimeDimensionSelect timeDim granularity).text
      (compileTimeDimensionSelect timeDim.shape granularity).text :=
  (alike_dateTrunc granularity timeDim.dimension).append (by decide) (alike_quoteIdentifier _ _)

theorem alike_aggregated {filter other : Option Predicate}
    (h : Option.Rel Predicate.AlikeTo filter other) (member : String) :
    Alike (aggregated filter member) (aggregated other (memberShape member)) := by
  cases h with
  | none => exact alike_member member
  | some hfilter =>
      exact ((hfilter.preceded (by decide)).append (by decide) (alike_member member)).followed
        (by decide)

theorem alike_measureItem {filter other : Option Predicate}
    (h : Option.Rel Predicate.AlikeTo filter other) (aggregation : Aggregation) (distinct : Bool)
    (member a b : String) :
    Alike (SelectItem.measure (getAggregationSqlFunction aggregation) distinct filter member a).text
      (SelectItem.measure (getAggregationSqlFunction aggregation) distinct other
        (memberShape member) b).text := by
  have hfunction : Plain (getAggregationSqlFunction aggregation ++ "(" ++
      if distinct then "DISTINCT " else "").toList := by
    cases aggregation <;> cases distinct <;> decide
  have hcall := ((alike_aggregated h member).preceded hfunction).followed (s := ")") (by decide)
  exact hcall.append (by decide) (alike_quoteIdentifier a b)

/-- Items, texts of clauses and the like, whose texts scan alike. -/
def SelectItem.AlikeTo (a b : SelectItem) : Prop := Alike a.text b.text

theorem compileMeasureSelect_shape {measure : MeasureSpec} {item : SelectItem}
    (h : compileMeasureSelect zone measure = .ok item) :
    ∃ other, compileMeasureSelect zone measure.shape = .ok other ∧ item.AlikeTo other := by
  unfold compileMeasureSelect at h ⊢
  cases hfilter : measure.filter with
  | none =>
      simp only [hfilter, Except.ok.injEq] at h
      subst h
      simp only [MeasureSpec.shape, hfilter, Option.map_none]
      exact ⟨_, rfl, alike_measureItem .none _ _ _ _ _⟩
  | some condition =>
      simp only [hfilter] at h
      cases hcompiles : compileFilterCondition zone condition with
      | error error => simp [hcompiles] at h
      | ok predicate =>
          simp only [hcompiles, Except.ok.injEq] at h
          subst h
          obtain ⟨other, hother, halike⟩ := compileFilterCondition_shape hcompiles
          simp only [MeasureSpec.shape, hfilter, Option.map_some, hother]
          exact ⟨_, rfl, alike_measureItem (.some halike) _ _ _ _ _⟩

theorem compileMeasures_shape {measures : List MeasureSpec} {items : List SelectItem}
    (h : compileMeasures zone measures = .ok items) :
    ∃ others, compileMeasures zone (measures.map MeasureSpec.shape) = .ok others ∧
      List.Forall₂ SelectItem.AlikeTo items others := by
  induction measures generalizing items with
  | nil =>
      rw [compileMeasures] at h
      cases h
      exact ⟨[], rfl, .nil⟩
  | cons measure rest ih =>
      rw [compileMeasures] at h
      cases hmeasure : compileMeasureSelect zone measure with
      | error error => simp [hmeasure] at h
      | ok item =>
          cases hrest : compileMeasures zone rest with
          | error error => simp [hmeasure, hrest] at h
          | ok items =>
              simp only [hmeasure, hrest, Except.ok.injEq] at h
              obtain ⟨other, hother, halike⟩ := compileMeasureSelect_shape hmeasure
              obtain ⟨others, hothers, hall⟩ := ih hrest
              refine ⟨other :: others, ?_, h ▸ .cons halike hall⟩
              rw [List.map_cons, compileMeasures, hother, hothers]

theorem alike_additionalText (conditions : Option (List JoinCondition)) {a b : String}
    (h : Alike a b) :
    Alike (a ++ additionalText conditions)
      (b ++ additionalText (conditions.map (List.map JoinCondition.shape))) := by
  cases conditions with
  | none => simpa [additionalText] using h
  | some conditions =>
      have hall : List.Forall₂ Alike
          (conditions.map fun c => quoteMemberRef c.left ++ " = " ++ quoteMemberRef c.right)
          (conditions.map fun c =>
            quoteMemberRef c.shape.left ++ " = " ++ quoteMemberRef c.shape.right) :=
        forall₂_alike_map fun c _ => (alike_member c.left).append (by decide) (alike_member c.right)
      have hjoined := h.append (s := " AND ") (by decide)
        (Alike.intercalate (s := " AND ") hall (by decide))
      simpa [additionalText, Function.comp_def, String.append_assoc] using hjoined

theorem alike_joinClause (keyword : JoinType) (join : JoinSpec) (a b : String) :
    Alike (JoinClause.mk (getJoinSqlKeyword keyword) a join.left join.right
        join.additionalConditions).text
      (JoinClause.mk (getJoinSqlKeyword keyword) b join.shape.left join.shape.right
        join.shape.additionalConditions).text := by
  have hkeyword : Plain (getJoinSqlKeyword keyword ++ " ").toList := by
    cases keyword <;> decide
  have htable := (alike_quoteIdentifier a b).preceded hkeyword
  have hleft := htable.append (s := " ON ") (by decide) (alike_member join.left)
  have hright := hleft.append (s := " = ") (by decide) (alike_member join.right)
  exact alike_additionalText join.additionalConditions hright

/-- Whatever tables have been joined, the clauses scan alike. -/
theorem alike_joins (joins : List JoinSpec) (as bs : List String) :
    List.Forall₂ Alike ((compileJoinClauses joins as).map JoinClause.text)
      ((compileJoinClauses (joins.map JoinSpec.shape) bs).map JoinClause.text) := by
  induction joins generalizing as bs with
  | nil => exact .nil
  | cons join rest ih =>
      have hleft := isSome_memberShape join.left
      have hright := isSome_memberShape join.right
      rw [List.map_cons, compileJoinClauses, compileJoinClauses]
      simp only [JoinSpec.shape]
      cases hl : parseMemberRef join.left with
      | none =>
          rw [hl, Option.isSome_none, Option.isSome_eq_false_iff, Option.isNone_iff_eq_none]
            at hleft
          simp only [hleft]
          exact ih as bs
      | some left =>
          rw [hl, Option.isSome_some, Option.isSome_iff_exists] at hleft
          obtain ⟨left', hleft⟩ := hleft
          cases hr : parseMemberRef join.right with
          | none =>
              rw [hr, Option.isSome_none, Option.isSome_eq_false_iff,
                Option.isNone_iff_eq_none] at hright
              simp only [hleft, hright]
              exact ih as bs
          | some right =>
              rw [hr, Option.isSome_some, Option.isSome_iff_exists] at hright
              obtain ⟨right', hright⟩ := hright
              simp only [hleft, hright, List.map_cons]
              exact .cons (alike_joinClause join.type join _ _) (ih _ _)

theorem alike_orderBy (spec : OrderBySpec) : Alike spec.text spec.shape.text := by
  have hmember := (alike_member spec.member).followed (s := " ") (by decide)
  have hdirection : Separator spec.direction.keyword := by cases spec.direction <;> decide
  have hordered := hmember.followed hdirection
  unfold OrderBySpec.text
  cases hnulls : spec.nulls with
  | none => simpa [OrderBySpec.shape, hnulls] using hordered
  | some nulls =>
      have hkeyword : Separator (" NULLS " ++ nulls.keyword) := by cases nulls <;> decide
      simpa [OrderBySpec.shape, hnulls] using hordered.followed hkeyword

end Clauses

section Statements

variable (zone : Zone) (now : Int)

/-- The statement of a query whose measures and filters have been compiled. -/
def assemble (zone : Zone) (now : Int) (query : Query) (table : String)
    (measures : List SelectItem) (filters : List Predicate) : Statement where
  selectItems := selectItems query table measures
  fromTable := table
  joins := compileJoinClauses query.joins [table]
  whereItems := filters.map .filter ++ timeRanges zone now query.timeDimensions
  groupItems := groupItems query
  orderBy := query.orderBy
  limit := query.limit
  offset := query.offset.filter fun offset => 0 < offset.value

/-- The clauses before the WHERE clause. -/
def Statement.before (statement : Statement) : List String :=
  ["SELECT " ++ ", ".intercalate (statement.selectItems.map SelectItem.text),
    "FROM " ++ quoteIdentifier statement.fromTable] ++
  clause "" "\n" (statement.joins.map JoinClause.text)

def Statement.after (statement : Statement) : List String :=
  clause "GROUP BY " ", " (statement.groupItems.map GroupItem.text) ++
  clause "ORDER BY " ", " (statement.orderBy.map OrderBySpec.text) ++
  (statement.limit.toList.map fun limit => "LIMIT " ++ limit.text) ++
  (statement.offset.toList.map fun offset => "OFFSET " ++ offset.text)

theorem clauses_eq (statement : Statement) :
    statement.clauses = statement.before ++
      (clause "WHERE " " AND " (statement.whereItems.map WhereItem.text) ++ statement.after) := by
  simp [Statement.clauses, Statement.before, Statement.after, List.append_assoc]

theorem alike_clause {keyword separator : String} (hkeyword : Plain keyword.toList)
    (hseparator : Separator separator) {as bs : List String} (h : List.Forall₂ Alike as bs) :
    List.Forall₂ Alike (clause keyword separator as) (clause keyword separator bs) := by
  cases h with
  | nil => exact .nil
  | cons hhead htail =>
      have hall := Alike.intercalate (.cons hhead htail) hseparator
      exact .cons (hall.preceded hkeyword) .nil

/-- What is picked from a list and from its shapes, if it is picked alike. -/
theorem forall₂_filterMap_map {α β γ δ : Type} {R : β → δ → Prop} {f : α → Option β}
    {g : γ → Option δ} {shape : α → γ} {xs : List α}
    (h : ∀ x ∈ xs, Option.Rel R (f x) (g (shape x))) :
    List.Forall₂ R (xs.filterMap f) ((xs.map shape).filterMap g) := by
  induction xs with
  | nil => exact .nil
  | cons x rest ih =>
      have hhead := h x List.mem_cons_self
      have htail := ih fun y hy => h y (List.mem_cons_of_mem x hy)
      rw [List.map_cons, List.filterMap_cons, List.filterMap_cons]
      revert hhead
      cases f x <;> cases g (shape x) <;> intro hhead
      · exact htail
      · cases hhead
      · cases hhead
      · cases hhead with
        | some hpicked => exact .cons hpicked htail

theorem alike_orAll {items others : List SelectItem}
    (h : List.Forall₂ SelectItem.AlikeTo items others) (table other : String) :
    List.Forall₂ SelectItem.AlikeTo (if items.isEmpty then [.allOf table] else items)
      (if others.isEmpty then [.allOf other] else others) := by
  cases h with
  | nil => exact .cons ((alike_quoteIdentifier table other).followed (by decide)) .nil
  | cons hhead htail => exact .cons hhead htail

theorem alike_selectItems (query : Query) {measures others : List SelectItem}
    (h : List.Forall₂ SelectItem.AlikeTo measures others) (table other : String) :
    List.Forall₂ Alike ((selectItems query table measures).map SelectItem.text)
      ((selectItems query.shape other others).map SelectItem.text) := by
  have hdimensions : List.Forall₂ SelectItem.AlikeTo
      (query.dimensions.map compileDimensionSelect)
      (query.shape.dimensions.map compileDimensionSelect) := by
    rw [Query.shape, List.map_map, List.forall₂_map_left_iff, List.forall₂_map_right_iff,
      List.forall₂_same]
    exact fun dimension _ => alike_dimension dimension
  have htimes : List.Forall₂ SelectItem.AlikeTo (timeSelects query.timeDimensions)
      (timeSelects query.shape.timeDimensions) := by
    refine forall₂_filterMap_map fun timeDim _ => ?_
    simp only [TimeDimensionSpec.shape]
    cases timeDim.granularity with
    | none => exact .none
    | some granularity => exact .some (alike_timeSelect timeDim granularity)
  rw [List.forall₂_map_left_iff, List.forall₂_map_right_iff]
  exact alike_orAll (List.rel_append (List.rel_append hdimensions htimes) h) table other

theorem alike_groupItems (query : Query) :
    List.Forall₂ Alike ((groupItems query).map GroupItem.text)
      ((groupItems query.shape).map GroupItem.text) := by
  unfold groupItems
  cases hmeasures : query.measures with
  | nil => simp [Query.shape, hmeasures]
  | cons measure rest =>
      simp only [Query.shape, hmeasures, List.map_cons, reduceCtorEq, if_false]
      rw [List.forall₂_map_left_iff, List.forall₂_map_right_iff]
      refine List.rel_append ?_ (forall₂_filterMap_map fun timeDim _ => ?_)
      · rw [List.map_map, List.forall₂_map_left_iff, List.forall₂_map_right_iff,
          List.forall₂_same]
        exact fun dimension _ => alike_member dimension.member
      · simp only [TimeDimensionSpec.shape]
        cases timeDim.granularity with
        | none => exact .none
        | some granularity => exact .some (alike_dateTrunc granularity timeDim.dimension)

theorem alike_before (query : Query) {measures others : List SelectItem}
    (h : List.Forall₂ SelectItem.AlikeTo measures others) (table other : String)
    (filters filters' : List Predicate) :
    List.Forall₂ Alike (assemble zone now query table measures filters).before
      (assemble zone now query.shape other others filters').before := by
  have hselect := Alike.intercalate (s := ", ")
    (alike_selectItems query h table other) (by decide)
  have hfrom := (alike_quoteIdentifier table other).preceded (s := "FROM ") (by decide)
  refine List.rel_append (.cons (hselect.preceded (by decide)) (.cons hfrom .nil)) ?_
  exact alike_clause (by decide) (by decide) (alike_joins query.joins [table] [other])

theorem alike_after (query : Query) (measures others : List SelectItem) (table other : String)
    (filters filters' : List Predicate) :
    List.Forall₂ Alike (assemble zone now query table measures filters).after
      (assemble zone now query.shape other others filters').after := by
  have horder : List.Forall₂ Alike (query.orderBy.map OrderBySpec.text)
      (query.shape.orderBy.map OrderBySpec.text) := by
    rw [Query.shape, List.map_map]
    exact forall₂_alike_map fun spec _ => alike_orderBy spec
  have hnumber : ∀ keyword : String, Plain keyword.toList → ∀ number : Option JsNumber,
      List.Forall₂ Alike (number.toList.map fun n => keyword ++ n.text)
        (number.toList.map fun n => keyword ++ n.text) := by
    intro keyword hkeyword number
    exact forall₂_alike_map fun n _ => (alike_plain n.plain).preceded hkeyword
  refine List.rel_append (List.rel_append (List.rel_append ?_ ?_) ?_) ?_
  · exact alike_clause (by decide) (by decide) (alike_groupItems query)
  · exact alike_clause (by decide) (by decide) horder
  · exact hnumber "LIMIT " (by decide) _
  · exact hnumber "OFFSET " (by decide) _

/-- A bound between quotes, as it gets into the text. -/
def quotedBound (bound : String) : String := "'" ++ bound ++ "'"

theorem dateRange_text (member : String) (bounds : DateBounds) :
    (WhereItem.dateRange member bounds).text =
      quoteMemberRef member ++ " BETWEEN " ++ quotedBound bounds.dateFrom ++ " AND " ++
        quotedBound bounds.dateTo := by
  have hbetween : " BETWEEN '" = " BETWEEN " ++ "'" := by decide
  have hand : "' AND '" = "'" ++ " AND " ++ "'" := by decide
  simp only [WhereItem.text, quotedBound, hbetween, hand, String.append_assoc]

theorem alike_dateRange {bounds : DateBounds}
    (hfrom : Alike (quotedBound bounds.dateFrom) (quotedBound bounds.dateFrom))
    (hto : Alike (quotedBound bounds.dateTo) (quotedBound bounds.dateTo)) (member : String) :
    Alike (WhereItem.dateRange member bounds).text
      (WhereItem.dateRange (memberShape member) bounds).text := by
  rw [dateRange_text, dateRange_text]
  exact ((alike_member member).append (by decide) hfrom).append (by decide) hto

theorem plain_formatDate (t : Int) : Plain (formatDate t).toList :=
  fun _ hc => ne_quote_of_momentChar (.inl (dateChar_formatDate hc))

theorem plain_epoch : Plain "1970-01-01".toList := by decide

theorem plain_resolveDateRange {range : DateRangeSpec} (h : ¬ range.Verbatim) :
    Plain (resolveDateRange zone now range).dateFrom.toList ∧
      Plain (resolveDateRange zone now range).dateTo.toList := by
  cases range with
  | preset preset =>
      cases preset with
      | allTime => exact ⟨plain_epoch, plain_formatDate _⟩
      | _ => exact ⟨plain_formatDate _, plain_formatDate _⟩
  | absolute dateFrom dateTo => exact absurd trivial h
  | tuple dateFrom dateTo => exact absurd trivial h
  | relative value unit => exact ⟨plain_formatDate _, plain_formatDate _⟩

/-- A time dimension whose bounds are strings of the query. -/
def TimeDimensionSpec.Verbatim (timeDim : TimeDimensionSpec) : Prop :=
  ∃ range, timeDim.dateRange = some range ∧ range.Verbatim

theorem resolveDateRange_shape {range : DateRangeSpec} (h : ¬ range.Verbatim) :
    range.shape = range := by
  cases range with
  | preset preset => rfl
  | absolute dateFrom dateTo => exact absurd trivial h
  | tuple dateFrom dateTo => exact absurd trivial h
  | relative value unit => rfl

theorem alike_timeRanges {timeDimensions : List TimeDimensionSpec}
    (h : ∀ timeDim ∈ timeDimensions, ¬ timeDim.Verbatim) :
    List.Forall₂ Alike ((timeRanges zone now timeDimensions).map WhereItem.text)
      ((timeRanges zone now (timeDimensions.map TimeDimensionSpec.shape)).map
        WhereItem.text) := by
  rw [List.forall₂_map_left_iff, List.forall₂_map_right_iff]
  refine forall₂_filterMap_map fun timeDim hmem => ?_
  have hverbatim := h timeDim hmem
  simp only [TimeDimensionSpec.shape]
  cases hrange : timeDim.dateRange with
  | none => exact .none
  | some range =>
      have hfixed : ¬ range.Verbatim := fun hrangeVerbatim =>
        hverbatim ⟨range, hrange, hrangeVerbatim⟩
      obtain ⟨hfrom, hto⟩ := plain_resolveDateRange zone now hfixed
      simp only [Option.map_some, resolveDateRange_shape hfixed]
      exact .some (alike_dateRange (alike_between hfrom) (alike_between hto) timeDim.dimension)

theorem alike_filterItems {filters others : List Predicate}
    (h : List.Forall₂ Predicate.AlikeTo filters others) :
    List.Forall₂ Alike ((filters.map WhereItem.filter).map WhereItem.text)
      ((others.map WhereItem.filter).map WhereItem.text) := by
  simp only [List.map_map, List.forall₂_map_left_iff, List.forall₂_map_right_iff]
  exact h

/-- **Texts by shape.**  Without ranges whose bounds are strings of the query, its text
scans like that of its shape. -/
theorem alike_sql {query : Query} (h : ∀ timeDim ∈ query.timeDimensions, ¬ timeDim.Verbatim)
    {measures otherMeasures : List SelectItem} {filters otherFilters : List Predicate}
    (hmeasures : List.Forall₂ SelectItem.AlikeTo measures otherMeasures)
    (hfilters : List.Forall₂ Predicate.AlikeTo filters otherFilters) (table other : String) :
    Alike (assemble zone now query table measures filters).sql
      (assemble zone now query.shape other otherMeasures otherFilters).sql := by
  have hwhere : List.Forall₂ Alike
      ((assemble zone now query table measures filters).whereItems.map WhereItem.text)
      ((assemble zone now query.shape other otherMeasures otherFilters).whereItems.map
        WhereItem.text) := by
    simp only [assemble, List.map_append]
    exact List.rel_append (alike_filterItems hfilters) (alike_timeRanges zone now h)
  unfold Statement.sql
  rw [clauses_eq, clauses_eq]
  refine Alike.intercalate (List.rel_append (alike_before zone now query hmeasures table other _ _)
    (List.rel_append ?_ (alike_after zone now query _ _ table other _ _))) (by decide)
  exact alike_clause (by decide) (by decide) hwhere

end Statements

end QueryEngine

end Zentra
