import Zentra.JsDate
import Zentra.SqlText

/-!
# Query definitions

What a dashboard or a hook asks for: dimensions, measures, filters, joins, an order, and
time dimensions, each naming a column as `table.column`.

* `FilterExpression` — conditions and their groups;
* `resolveDateRange` — the bounds of a date range at a moment.
-/

open SqlText

namespace Zentra

namespace QueryEngine

structure ParsedMemberRef where
  table : String
  column : String
  deriving DecidableEq, Repr

/-- `parseMemberRef`: the member is split at its first dot, which must not be its first
or its last character. -/
def parseMemberRef (member : String) : Option ParsedMemberRef :=
  let chars := member.toList
  let table := chars.takeWhile (· ≠ '.')
  if table ≠ [] ∧ table.length + 1 < chars.length then
    some { table := String.ofList table, column := String.ofList (chars.drop (table.length + 1)) }
  else none

example : parseMemberRef "orders.item.id" = some ⟨"orders", "item.id"⟩ := by decide

example : parseMemberRef "orders." = none := by decide

/-- A finite number with `String(value)`, which no quote occurs in. -/
structure JsNumber where
  value : Rat
  text : String
  plain : Plain text.toList
  deriving DecidableEq

/-- `FilterValue`; a date is a moment in milliseconds. -/
inductive FilterValue
  | null
  | string (value : String)
  | number (value : JsNumber)
  | boolean (value : Bool)
  | date (value : Int)
  deriving DecidableEq

/-- `FilterOperator`; `inList` is its `in`, `matchesRegex` its `matches`. -/
inductive FilterOperator
  | equals
  | notEquals
  | gt
  | gte
  | lt
  | lte
  | between
  | contains
  | notContains
  | startsWith
  | endsWith
  | matchesRegex
  | inList
  | notIn
  | isNull
  | isNotNull
  | arrayContains
  | arrayContainsAny
  | arrayContainsAll
  deriving DecidableEq, Repr

structure FilterCondition where
  member : String
  operator : FilterOperator
  values : Option (List FilterValue) := none
  caseInsensitive : Bool := false
  deriving DecidableEq

inductive FilterExpression
  | condition (condition : FilterCondition)
  | and (members : List FilterExpression)
  | or (members : List FilterExpression)

inductive PresetDateRange
  | today
  | yesterday
  | thisWeek
  | lastWeek
  | thisMonth
  | lastMonth
  | thisQuarter
  | lastQuarter
  | thisYear
  | lastYear
  | last7Days
  | last14Days
  | last30Days
  | last60Days
  | last90Days
  | last365Days
  | allTime
  deriving DecidableEq, Repr

/-- `TimeGranularity`, and `TimeUnit`. -/
inductive TimeGranularity
  | second
  | minute
  | hour
  | day
  | week
  | month
  | quarter
  | year
  deriving DecidableEq, Repr

/-- `DateRangeSpec`: a preset, an absolute range in one of its two forms, or the last
units up to today. -/
inductive DateRangeSpec
  | preset (preset : PresetDateRange)
  | absolute (dateFrom dateTo : String)
  | tuple (dateFrom dateTo : String)
  | relative (value : Int) (unit : TimeGranularity)
  deriving DecidableEq, Repr

structure TimeDimensionSpec where
  dimension : String
  granularity : Option TimeGranularity := none
  dateRange : Option DateRangeSpec := none
  deriving DecidableEq

structure DateBounds where
  dateFrom : String
  dateTo : String
  deriving DecidableEq, Repr

section Resolving

open JsDate

variable (zone : Zone) (now : Int)

/-- Midnight of the current day, in local time. -/
def today : Int := setHours zone now 0 0 0 0

def startOfWeek (date : Int) : Int :=
  let weekday := getDay zone date
  setDate zone date (getDate zone date - weekday + if weekday = 0 then -6 else 1)

/-- A range of days that ends today. -/
def lastDays (count : Int) : DateBounds where
  dateFrom := formatDate (setDate zone (today zone now) (getDate zone (today zone now) - count))
  dateTo := formatDate (today zone now)

def resolvePresetDateRange : PresetDateRange → DateBounds
  | .today => ⟨formatDate (today zone now), formatDate (today zone now)⟩
  | .yesterday =>
      let yesterday := setDate zone (today zone now) (getDate zone (today zone now) - 1)
      ⟨formatDate yesterday, formatDate yesterday⟩
  | .thisWeek =>
      let start := startOfWeek zone (today zone now)
      ⟨formatDate start, formatDate (setDate zone start (getDate zone start + 6))⟩
  | .lastWeek =>
      let date := today zone now
      let weekday := getDay zone date
      let start := setDate zone date
        (getDate zone date - weekday + (if weekday = 0 then -6 else 1) - 7)
      ⟨formatDate start, formatDate (setDate zone start (getDate zone start + 6))⟩
  | .thisMonth =>
      let year := getFullYear zone (today zone now)
      let month := getMonth zone (today zone now)
      ⟨formatDate (newDate zone year month 1), formatDate (newDate zone year (month + 1) 0)⟩
  | .lastMonth =>
      let year := getFullYear zone (today zone now)
      let month := getMonth zone (today zone now)
      ⟨formatDate (newDate zone year (month - 1) 1), formatDate (newDate zone year month 0)⟩
  | .thisQuarter =>
      let year := getFullYear zone (today zone now)
      let quarter := getMonth zone (today zone now) / 3
      ⟨formatDate (newDate zone year (quarter * 3) 1),
        formatDate (newDate zone year (quarter * 3 + 3) 0)⟩
  | .lastQuarter =>
      let year := getFullYear zone (today zone now)
      let quarter := getMonth zone (today zone now) / 3
      ⟨formatDate (newDate zone year ((quarter - 1) * 3) 1),
        formatDate (newDate zone year (quarter * 3) 0)⟩
  | .thisYear =>
      let year := getFullYear zone (today zone now)
      ⟨formatDate (newDate zone year 0 1), formatDate (newDate zone year 11 31)⟩
  | .lastYear =>
      let year := getFullYear zone (today zone now)
      ⟨formatDate (newDate zone (year - 1) 0 1), formatDate (newDate zone (year - 1) 11 31)⟩
  | .last7Days => lastDays zone now 6
  | .last14Days => lastDays zone now 13
  | .last30Days => lastDays zone now 29
  | .last60Days => lastDays zone now 59
  | .last90Days => lastDays zone now 89
  | .last365Days => lastDays zone now 364
  | .allTime => ⟨"1970-01-01", formatDate (today zone now)⟩

def unitsBefore (value : Int) : TimeGranularity → Int
  | .second => setSeconds zone now (getSeconds zone now - value)
  | .minute => setMinutes zone now (getMinutes zone now - value)
  | .hour => setHour zone now (getHours zone now - value)
  | .day => setDate zone now (getDate zone now - value)
  | .week => setDate zone now (getDate zone now - value * 7)
  | .month => setMonth zone now (getMonth zone now - value)
  | .quarter => setMonth zone now (getMonth zone now - value * 3)
  | .year => setFullYear zone now (getFullYear zone now - value)

/-- `resolveDateRange`; every range of the types above has bounds. -/
def resolveDateRange : DateRangeSpec → DateBounds
  | .preset preset => resolvePresetDateRange zone now preset
  | .absolute dateFrom dateTo => ⟨dateFrom, dateTo⟩
  | .tuple dateFrom dateTo => ⟨dateFrom, dateTo⟩
  | .relative value unit =>
      ⟨formatDate (setHours zone (unitsBefore zone now value unit) 0 0 0 0),
        formatDate (setHours zone now 23 59 59 999)⟩

end Resolving

inductive Aggregation
  | sum
  | count
  | avg
  | min
  | max
  | countDistinct
  | sumDistinct
  | avgDistinct
  deriving DecidableEq, Repr

inductive JoinType
  | inner
  | left
  | right
  | full
  | cross
  deriving DecidableEq, Repr

inductive OrderDirection
  | asc
  | desc
  deriving DecidableEq, Repr

inductive NullsHandling
  | first
  | last
  deriving DecidableEq, Repr

structure DimensionSpec where
  member : String
  aliasName : Option String := none
  deriving DecidableEq

structure MeasureSpec where
  member : String
  aggregation : Aggregation
  aliasName : Option String := none
  distinct : Bool := false
  filter : Option FilterCondition := none
  deriving DecidableEq

/-- Two members that are compared in a join. -/
structure JoinCondition where
  left : String
  right : String
  deriving DecidableEq

structure JoinSpec where
  left : String
  right : String
  type : JoinType
  additionalConditions : Option (List JoinCondition) := none
  deriving DecidableEq

structure OrderBySpec where
  member : String
  direction : OrderDirection
  nulls : Option NullsHandling := none
  deriving DecidableEq

/-- `Query`: what its compilation and its routing read of it. -/
structure Query where
  dimensions : List DimensionSpec := []
  measures : List MeasureSpec := []
  filters : List FilterExpression := []
  joins : List JoinSpec := []
  orderBy : List OrderBySpec := []
  timeDimensions : List TimeDimensionSpec := []
  limit : Option JsNumber := none
  offset : Option JsNumber := none
  entityId : Option String := none

end QueryEngine

end Zentra
