import Zentra.QueryDefinition
import Zentra.SqlLogic

/-!
# The SQL compiler

A query definition becomes one SELECT statement.  The compiler's functions build the
statement clause by clause; the text of each clause is the text the source puts together.

* `compileInternal` — the statement of a query, at a moment;
* `Statement.sql` — its text.
-/

open SqlText SqlLogic JsDate

namespace Zentra

namespace QueryEngine

structure QueryCompilationError where
  message : String
  deriving DecidableEq, Repr

/-- `quoteIdentifier`.  The validated and the escaped path give the same text. -/
def quoteIdentifier (identifier : String) : String :=
  String.ofList (enclosed '"' identifier.toList)

def quoteMemberRef (member : String) : String :=
  match parseMemberRef member with
  | none => quoteIdentifier member
  | some parsed => quoteIdentifier parsed.table ++ "." ++ quoteIdentifier parsed.column

def formatValue : FilterValue → String
  | .null => "NULL"
  | .string value => String.ofList (enclosed '\'' value.toList)
  | .number value => value.text
  | .boolean value => if value then "TRUE" else "FALSE"
  | .date value => "'" ++ toISOString value ++ "'"

/-- `getStringFilterValue`: `String(value)`. -/
def getStringFilterValue (zone : Zone) : FilterValue → String
  | .null => "null"
  | .string value => value
  | .number value => value.text
  | .boolean value => if value then "true" else "false"
  | .date value => zone.dateString value

inductive LikePatternOperator
  | contains
  | startsWith
  | endsWith
  deriving DecidableEq, Repr

def buildLikePattern (value : String) (operator : LikePatternOperator) : String :=
  let escaped := String.ofList (doubled '\'' (escapeLike '\\' value.toList))
  match operator with
  | .contains => "'%" ++ escaped ++ "%'"
  | .startsWith => "'" ++ escaped ++ "%'"
  | .endsWith => "'%" ++ escaped ++ "'"

inductive Comparison
  | eq
  | ne
  | gt
  | ge
  | lt
  | le
  deriving DecidableEq, Repr

/-- The operator as the text has it. -/
def Comparison.symbol : Comparison → String
  | eq => "="
  | ne => "!="
  | gt => ">"
  | ge => ">="
  | lt => "<"
  | le => "<="

/-- A condition of the statement.  The members are those of the query. -/
inductive Predicate
  | compare (comparison : Comparison) (member : String) (value : FilterValue)
  | between (member : String) (low high : FilterValue)
  | isIn (negated : Bool) (member : String) (values : List FilterValue)
  | like (negated : Bool) (member : String) (operator : LikePatternOperator) (value : String)
  | matchesRegex (member : String) (value : FilterValue)
  | isNull (negated : Bool) (member : String)
  | listContains (member : String) (value : FilterValue)
  | listHasAny (member : String) (values : List FilterValue)
  | listHasAll (member : String) (values : List FilterValue)
  | constant (value : Bool)
  | and (members : List Predicate)
  | or (members : List Predicate)

/-- `values.map(formatValue).join(', ')`. -/
def formatValues (values : List FilterValue) : String := ", ".intercalate (values.map formatValue)

/-- `NOT `, or nothing. -/
def notText (negated : Bool) : String := if negated then "NOT " else ""

mutual

def Predicate.text : Predicate → String
  | .compare comparison member value =>
      quoteMemberRef member ++ " " ++ comparison.symbol ++ " " ++ formatValue value
  | .between member low high =>
      quoteMemberRef member ++ " BETWEEN " ++ formatValue low ++ " AND " ++ formatValue high
  | .isIn negated member values =>
      quoteMemberRef member ++ " " ++ notText negated ++ "IN (" ++ formatValues values ++ ")"
  | .like negated member operator value =>
      quoteMemberRef member ++ " " ++ notText negated ++ "LIKE " ++
        buildLikePattern value operator ++ " ESCAPE '\\'"
  | .matchesRegex member value => quoteMemberRef member ++ " ~ " ++ formatValue value
  | .isNull negated member => quoteMemberRef member ++ " IS " ++ notText negated ++ "NULL"
  | .listContains member value =>
      "list_contains(" ++ quoteMemberRef member ++ ", " ++ formatValue value ++ ")"
  | .listHasAny member values =>
      "list_has_any(" ++ quoteMemberRef member ++ ", [" ++ formatValues values ++ "])"
  | .listHasAll member values =>
      "list_has_all(" ++ quoteMemberRef member ++ ", [" ++ formatValues values ++ "])"
  | .constant value => if value then "TRUE" else "FALSE"
  | .and members => "(" ++ " AND ".intercalate (Predicate.texts members) ++ ")"
  | .or members => "(" ++ " OR ".intercalate (Predicate.texts members) ++ ")"

/-- The texts of the members of a group. -/
def Predicate.texts : List Predicate → List String
  | [] => []
  | p :: ps => p.text :: Predicate.texts ps

end

def FilterOperator.value : FilterOperator → String
  | equals => "equals"
  | notEquals => "notEquals"
  | gt => "gt"
  | gte => "gte"
  | lt => "lt"
  | lte => "lte"
  | between => "between"
  | contains => "contains"
  | notContains => "notContains"
  | startsWith => "startsWith"
  | endsWith => "endsWith"
  | matchesRegex => "matches"
  | inList => "in"
  | notIn => "notIn"
  | isNull => "isNull"
  | isNotNull => "isNotNull"
  | arrayContains => "arrayContains"
  | arrayContainsAny => "arrayContainsAny"
  | arrayContainsAll => "arrayContainsAll"

def operatorRequiresValues (operator : FilterOperator) : Bool :=
  operator ≠ .isNull ∧ operator ≠ .isNotNull

def validateFilterValues (condition : FilterCondition) (values : List FilterValue) :
    Except QueryCompilationError Unit :=
  if ¬ operatorRequiresValues condition.operator then .ok ()
  else if values = [] then
    .error ⟨"Filter operator '" ++ condition.operator.value ++ "' on member '" ++
      condition.member ++ "' requires at least one value, but none were provided"⟩
  else if condition.operator = .between ∧ values.length < 2 then
    .error ⟨"Filter operator 'between' on member '" ++ condition.member ++
      "' requires exactly 2 values, but " ++ toString values.length ++ " were provided"⟩
  else .ok ()

/-- The switch over the operators, on values that have been validated. -/
def conditionPredicate (zone : Zone) (condition : FilterCondition)
    (values : List FilterValue) : Predicate :=
  let member := condition.member
  let first := values.headD .null
  let second := (values.drop 1).headD .null
  match condition.operator with
  | .equals => .compare .eq member first
  | .notEquals => .compare .ne member first
  | .gt => .compare .gt member first
  | .gte => .compare .ge member first
  | .lt => .compare .lt member first
  | .lte => .compare .le member first
  | .between => .between member first second
  | .inList => if values = [] then .constant false else .isIn false member values
  | .notIn => if values = [] then .constant true else .isIn true member values
  | .contains => .like false member .contains (getStringFilterValue zone first)
  | .notContains => .like true member .contains (getStringFilterValue zone first)
  | .startsWith => .like false member .startsWith (getStringFilterValue zone first)
  | .endsWith => .like false member .endsWith (getStringFilterValue zone first)
  | .matchesRegex => .matchesRegex member first
  | .isNull => .isNull false member
  | .isNotNull => .isNull true member
  | .arrayContains => .listContains member first
  | .arrayContainsAny => if values = [] then .constant false else .listHasAny member values
  | .arrayContainsAll => if values = [] then .constant true else .listHasAll member values

def compileFilterCondition (zone : Zone) (condition : FilterCondition) :
    Except QueryCompilationError Predicate :=
  let values := condition.values.getD []
  match validateFilterValues condition values with
  | .error error => .error error
  | .ok () => .ok (conditionPredicate zone condition values)

/-- `children.length > 1 ? (…) : children[0] ?? 'TRUE'`. -/
def groupPredicate (group : List Predicate → Predicate) : List Predicate → Predicate
  | [] => .constant true
  | [child] => child
  | children => group children

mutual

def compileFilterExpression (zone : Zone) :
    FilterExpression → Except QueryCompilationError Predicate
  | .condition condition => compileFilterCondition zone condition
  | .and members =>
      match compileFilterExpressions zone members with
      | .error error => .error error
      | .ok children => .ok (groupPredicate .and children)
  | .or members =>
      match compileFilterExpressions zone members with
      | .error error => .error error
      | .ok children => .ok (groupPredicate .or children)

/-- `map` over the members of a group; the first error ends it. -/
def compileFilterExpressions (zone : Zone) :
    List FilterExpression → Except QueryCompilationError (List Predicate)
  | [] => .ok []
  | expression :: rest =>
      match compileFilterExpression zone expression with
      | .error error => .error error
      | .ok child =>
          match compileFilterExpressions zone rest with
          | .error error => .error error
          | .ok children => .ok (child :: children)

end

def getAggregationSqlFunction : Aggregation → String
  | .sum => "SUM"
  | .sumDistinct => "SUM"
  | .count => "COUNT"
  | .countDistinct => "COUNT"
  | .avg => "AVG"
  | .avgDistinct => "AVG"
  | .min => "MIN"
  | .max => "MAX"

def Aggregation.value : Aggregation → String
  | sum => "sum"
  | count => "count"
  | avg => "avg"
  | min => "min"
  | max => "max"
  | countDistinct => "countDistinct"
  | sumDistinct => "sumDistinct"
  | avgDistinct => "avgDistinct"

def isDistinctAggregation (aggregation : Aggregation) : Bool :=
  aggregation = .countDistinct ∨ aggregation = .sumDistinct ∨ aggregation = .avgDistinct

def getDateTruncUnit : TimeGranularity → String
  | .second => "second"
  | .minute => "minute"
  | .hour => "hour"
  | .day => "day"
  | .week => "week"
  | .month => "month"
  | .quarter => "quarter"
  | .year => "year"

def getJoinSqlKeyword : JoinType → String
  | .inner => "INNER JOIN"
  | .left => "LEFT OUTER JOIN"
  | .right => "RIGHT OUTER JOIN"
  | .full => "FULL OUTER JOIN"
  | .cross => "CROSS JOIN"

/-- `direction.toUpperCase()`. -/
def OrderDirection.keyword : OrderDirection → String
  | asc => "ASC"
  | desc => "DESC"

/-- `nulls.toUpperCase()`. -/
def NullsHandling.keyword : NullsHandling → String
  | first => "FIRST"
  | last => "LAST"

/-- An expression of the SELECT clause, with its alias. -/
inductive SelectItem
  | dimension (member aliasName : String)
  | time (unit : TimeGranularity) (member aliasName : String)
  | measure (function : String) (distinct : Bool) (filter : Option Predicate)
      (member aliasName : String)
  | allOf (table : String)

structure JoinClause where
  keyword : String
  table : String
  left : String
  right : String
  additionalConditions : Option (List JoinCondition)
  deriving DecidableEq

/-- A condition of the WHERE clause: a filter, or the range of a time dimension. -/
inductive WhereItem
  | filter (predicate : Predicate)
  | dateRange (member : String) (bounds : DateBounds)

/-- An expression of the GROUP BY clause. -/
inductive GroupItem
  | column (member : String)
  | time (unit : TimeGranularity) (member : String)
  deriving DecidableEq

structure Statement where
  selectItems : List SelectItem
  fromTable : String
  joins : List JoinClause
  whereItems : List WhereItem
  groupItems : List GroupItem
  orderBy : List OrderBySpec
  limit : Option JsNumber
  offset : Option JsNumber

/-- `DATE_TRUNC` of a member. -/
def dateTrunc (unit : TimeGranularity) (member : String) : String :=
  "DATE_TRUNC('" ++ getDateTruncUnit unit ++ "', " ++ quoteMemberRef member ++ ")"

def aggregated (filter : Option Predicate) (member : String) : String :=
  match filter with
  | none => quoteMemberRef member
  | some predicate =>
      "CASE WHEN " ++ predicate.text ++ " THEN " ++ quoteMemberRef member ++ " END"

def SelectItem.text : SelectItem → String
  | dimension member aliasName => quoteMemberRef member ++ " AS " ++ quoteIdentifier aliasName
  | time unit member aliasName => dateTrunc unit member ++ " AS " ++ quoteIdentifier aliasName
  | measure function distinct filter member aliasName =>
      function ++ "(" ++ (if distinct then "DISTINCT " else "") ++ aggregated filter member ++
        ")" ++ " AS " ++ quoteIdentifier aliasName
  | allOf table => quoteIdentifier table ++ ".*"

/-- The additional conditions of a join; an empty list leaves the AND behind. -/
def additionalText : Option (List JoinCondition) → String
  | none => ""
  | some conditions =>
      " AND " ++ " AND ".intercalate (conditions.map fun condition =>
        quoteMemberRef condition.left ++ " = " ++ quoteMemberRef condition.right)

def JoinClause.text (join : JoinClause) : String :=
  join.keyword ++ " " ++ quoteIdentifier join.table ++ " ON " ++ quoteMemberRef join.left ++
    " = " ++ quoteMemberRef join.right ++ additionalText join.additionalConditions

def WhereItem.text : WhereItem → String
  | filter predicate => predicate.text
  | dateRange member bounds =>
      quoteMemberRef member ++ " BETWEEN '" ++ bounds.dateFrom ++ "' AND '" ++ bounds.dateTo ++ "'"

def GroupItem.text : GroupItem → String
  | column member => quoteMemberRef member
  | time unit member => dateTrunc unit member

def OrderBySpec.text (spec : OrderBySpec) : String :=
  quoteMemberRef spec.member ++ " " ++ spec.direction.keyword ++
    match spec.nulls with
    | none => ""
    | some nulls => " NULLS " ++ nulls.keyword

/-- A clause that is left out if it has no parts. -/
def clause (keyword separator : String) (parts : List String) : List String :=
  if parts = [] then [] else [keyword ++ separator.intercalate parts]

def Statement.clauses (statement : Statement) : List String :=
  ["SELECT " ++ ", ".intercalate (statement.selectItems.map SelectItem.text),
    "FROM " ++ quoteIdentifier statement.fromTable] ++
  clause "" "\n" (statement.joins.map JoinClause.text) ++
  clause "WHERE " " AND " (statement.whereItems.map WhereItem.text) ++
  clause "GROUP BY " ", " (statement.groupItems.map GroupItem.text) ++
  clause "ORDER BY " ", " (statement.orderBy.map OrderBySpec.text) ++
  (statement.limit.toList.map fun limit => "LIMIT " ++ limit.text) ++
  (statement.offset.toList.map fun offset => "OFFSET " ++ offset.text)

/-- The text of the statement, not pretty printed. -/
def Statement.sql (statement : Statement) : String := "\n".intercalate statement.clauses

def compileDimensionSelect (dimension : DimensionSpec) : SelectItem :=
  .dimension dimension.member
    (dimension.aliasName.getD
      (((parseMemberRef dimension.member).map ParsedMemberRef.column).getD dimension.member))

def compileTimeDimensionSelect (timeDim : TimeDimensionSpec) (granularity : TimeGranularity) :
    SelectItem :=
  .time granularity timeDim.dimension
    (((parseMemberRef timeDim.dimension).map ParsedMemberRef.column).getD "time" ++ "_" ++
      getDateTruncUnit granularity)

def compileMeasureSelect (zone : Zone) (measure : MeasureSpec) :
    Except QueryCompilationError SelectItem :=
  let item filter := SelectItem.measure (getAggregationSqlFunction measure.aggregation)
    (isDistinctAggregation measure.aggregation || measure.distinct) filter measure.member
    (measure.aliasName.getD (measure.aggregation.value ++ "_" ++
      ((parseMemberRef measure.member).map ParsedMemberRef.column).getD "value"))
  match measure.filter with
  | none => .ok (item none)
  | some condition =>
      match compileFilterCondition zone condition with
      | .error error => .error error
      | .ok predicate => .ok (item (some predicate))

/-- The measures one after the other; the first error ends it. -/
def compileMeasures (zone : Zone) :
    List MeasureSpec → Except QueryCompilationError (List SelectItem)
  | [] => .ok []
  | measure :: rest =>
      match compileMeasureSelect zone measure with
      | .error error => .error error
      | .ok item =>
          match compileMeasures zone rest with
          | .error error => .error error
          | .ok items => .ok (item :: items)

/-- `compileJoinClauses`, with the tables that have been joined. -/
def compileJoinClauses : List JoinSpec → List String → List JoinClause
  | [], _ => []
  | join :: rest, joinedTables =>
      match parseMemberRef join.left, parseMemberRef join.right with
      | some leftParsed, some rightParsed =>
          let tableToJoin :=
            if leftParsed.table ∈ joinedTables then rightParsed.table else leftParsed.table
          { keyword := getJoinSqlKeyword join.type
            table := tableToJoin
            left := join.left
            right := join.right
            additionalConditions := join.additionalConditions } ::
            compileJoinClauses rest (tableToJoin :: joinedTables)
      | _, _ => compileJoinClauses rest joinedTables

def tableOf (member : String) : Option String :=
  (parseMemberRef member).map ParsedMemberRef.table

/-- The first of the members, if it names a table. -/
def headTable (members : List String) : Option String := members.head?.bind tableOf

/-- The primary table of a query: that of its first dimension, its first measure, or its
first time dimension. -/
def Query.primaryTable (query : Query) (override : Option String) : Option String :=
  override.or <| (headTable (query.dimensions.map DimensionSpec.member)).or <|
    (headTable (query.measures.map MeasureSpec.member)).or
      (headTable (query.timeDimensions.map TimeDimensionSpec.dimension))

def timeSelects (timeDimensions : List TimeDimensionSpec) : List SelectItem :=
  timeDimensions.filterMap fun timeDim =>
    timeDim.granularity.map fun granularity => compileTimeDimensionSelect timeDim granularity

/-- The date ranges of the WHERE clause. -/
def timeRanges (zone : Zone) (now : Int) (timeDimensions : List TimeDimensionSpec) :
    List WhereItem :=
  timeDimensions.filterMap fun timeDim =>
    timeDim.dateRange.map fun dateRange =>
      .dateRange timeDim.dimension (resolveDateRange zone now dateRange)

def groupItems (query : Query) : List GroupItem :=
  if query.measures = [] then []
  else
    (query.dimensions.map fun dimension => .column dimension.member) ++
      query.timeDimensions.filterMap fun timeDim =>
        timeDim.granularity.map fun granularity => .time granularity timeDim.dimension

structure CompilationResult where
  statement : Statement
  tables : List String
  hasAggregations : Bool
  hasJoins : Bool

/-- The SELECT clause: everything of the primary table if nothing is asked for. -/
def selectItems (query : Query) (primaryTable : String) (measures : List SelectItem) :
    List SelectItem :=
  let items := query.dimensions.map compileDimensionSelect ++
    timeSelects query.timeDimensions ++ measures
  if items.isEmpty then [.allOf primaryTable] else items

/-- `tables` of the result: the tables of the members, the primary table first. -/
def resultTables (query : Query) (primaryTable : String) : List String :=
  (primaryTable ::
    ((query.dimensions.map DimensionSpec.member ++ query.measures.map MeasureSpec.member ++
      query.joins.flatMap (fun join => [join.left, join.right]) ++
      query.timeDimensions.map TimeDimensionSpec.dimension).filterMap tableOf)).reverse.dedup.reverse

def compileInternal (zone : Zone) (now : Int) (query : Query) (override : Option String) :
    Except QueryCompilationError CompilationResult :=
  match query.primaryTable override with
  | none => .error ⟨"Cannot determine primary table from query"⟩
  | some primaryTable =>
      if primaryTable = "" then .error ⟨"Cannot determine primary table from query"⟩
      else
        match compileMeasures zone query.measures with
        | .error error => .error error
        | .ok measures =>
            match compileFilterExpressions zone query.filters with
            | .error error => .error error
            | .ok filters => .ok
                { statement :=
                    { selectItems := selectItems query primaryTable measures
                      fromTable := primaryTable
                      joins := compileJoinClauses query.joins [primaryTable]
                      whereItems := filters.map .filter ++
                        timeRanges zone now query.timeDimensions
                      groupItems := groupItems query
                      orderBy := query.orderBy
                      limit := query.limit
                      offset := query.offset.filter fun offset => 0 < offset.value }
                  tables := resultTables query primaryTable
                  hasAggregations := query.measures ≠ []
                  hasJoins := query.joins ≠ [] }

end QueryEngine

end Zentra
