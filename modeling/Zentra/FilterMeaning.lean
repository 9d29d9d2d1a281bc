import Mathlib.Algebra.Order.Ring.Unbundled.Rat
import Zentra.SqlCompiler

/-!
# The meaning of filters

A filter says which rows a query is about: a condition asks something of one column, an
`and` group asks for all its members and an `or` group for one of them.  The statement
asks with SQL conditions instead, where a comparison with NULL is neither true nor false.

* `FilterCondition.Kept`, `FilterExpression.Kept` — the filters whose text asks for it;
* `meansSame_iff` — the parts of a filter mean the same in the statement iff all of them
  are kept.
-/

open SqlText SqlLogic JsDate

namespace Zentra

namespace QueryEngine

inductive Scalar
  | number (value : Rat)
  | text (value : String)
  | boolean (value : Bool)
  | timestamp (moment : Int)
  deriving DecidableEq

/-- What a row holds for a member: a value, NULL (`none`), or a list of these. -/
inductive Cell
  | scalar (value : Option Scalar)
  | list (elements : List (Option Scalar))
  deriving DecidableEq

/-- The row a condition is read on, by member. -/
abbrev Row := String → Cell

/-- How the database reads texts: as timestamps, as regular expressions, and without
their case. -/
structure Reading where
  timestamp : String → Option Int
  regexMatches : Bool → String → String → Bool
  fold : Char → Char

def Cell.isNull : Cell → Bool
  | scalar none => true
  | _ => false

/-- The text of a cell that holds one. -/
def Cell.chars : Cell → Option (List Char)
  | scalar (some (.text value)) => some value.toList
  | _ => none

section Comparing

variable (reading : Reading)

/-- The order of two values; a text is read as a timestamp next to one, and values of
different kinds have no order. -/
def compareScalars : Scalar → Scalar → Option Ordering
  | .number a, .number b => some (compare a b)
  | .text a, .text b => some (compare a b)
  | .boolean a, .boolean b => some (compare a b)
  | .timestamp a, .timestamp b => some (compare a b)
  | .timestamp a, .text b => (reading.timestamp b).map (compare a)
  | .text a, .timestamp b => some (compare a (toISOString b))
  | _, _ => none

def Cell.order : Cell → Scalar → Option Ordering
  | scalar (some value), operand => compareScalars reading value operand
  | _, _ => none

end Comparing

/-- Whether an order is one the comparison asks for. -/
def Comparison.holds : Comparison → Option Ordering → Bool
  | eq, order => order = some .eq
  | ne, order => order ≠ some .eq
  | gt, order => order = some .gt
  | ge, order => order = some .gt ∨ order = some .eq
  | lt, order => order = some .lt
  | le, order => order = some .lt ∨ order = some .eq

/-- The literal that `formatValue` writes, as the database reads it. -/
def literal : FilterValue → Option Scalar
  | .null => none
  | .string value => some (.text value)
  | .number value => some (.number value.value)
  | .boolean value => some (.boolean value)
  | .date value => some (.text (toISOString value))

/-- What stands between the quotes of `buildLikePattern`, read as a literal. -/
def likePattern (value : String) : LikePatternOperator → List Char
  | .contains => '%' :: (escapeLike '\\' value.toList ++ ['%'])
  | .startsWith => escapeLike '\\' value.toList ++ ['%']
  | .endsWith => '%' :: escapeLike '\\' value.toList

theorem buildLikePattern_toList (value : String) (operator : LikePatternOperator) :
    (buildLikePattern value operator).toList = enclosed '\'' (likePattern value operator) := by
  cases operator <;>
    simp [buildLikePattern, likePattern, enclosed, doubled, doubled_append]

/-- The text of a value that a regular expression can be read from. -/
def patternText : FilterValue → Option String
  | .string value => some value
  | .date value => some (toISOString value)
  | _ => none

section Truth

variable (reading : Reading)

def compareTruth (comparison : Comparison) (cell : Cell) (value : FilterValue) : Truth :=
  if cell.isNull then none
  else (literal value).map fun operand => comparison.holds (cell.order reading operand)

/-- `LIKE`. -/
def likeTruth (operator : LikePatternOperator) (cell : Cell) (value : String) : Truth :=
  if cell.isNull then none
  else some (cell.chars.any (like (wildcards '\\' false (likePattern value operator))))

/-- `~`. -/
def regexTruth (cell : Cell) (value : FilterValue) : Truth :=
  if cell.isNull then none
  else (patternText value).map fun pattern =>
    cell.chars.any fun text => reading.regexMatches false pattern (String.ofList text)

/-- Whether one of the elements equals the literal. -/
def listed (elements : List (Option Scalar)) (value : FilterValue) : Bool :=
  (literal value).any fun operand =>
    elements.any fun element => (Cell.scalar element).order reading operand = some .eq

/-- A list function of the database, given the elements. -/
def listTruth (function : List (Option Scalar) → Truth) : Cell → Truth
  | .scalar none => none
  | .scalar (some _) => some false
  | .list elements => function elements

/-- `list_contains`. -/
def containsTruth (value : FilterValue) (elements : List (Option Scalar)) : Truth :=
  if value = .null then none else some (listed reading elements value)

/-- `list_has_any`; NULLs are ignored. -/
def hasAnyTruth (values : List FilterValue) (elements : List (Option Scalar)) : Truth :=
  some (values.any (listed reading elements))

/-- `list_has_all`; NULLs are ignored. -/
def hasAllTruth (values : List FilterValue) (elements : List (Option Scalar)) : Truth :=
  some (values.all fun value => value = .null ∨ listed reading elements value)

/-- With `NOT` before it, or without. -/
def negateIf (negated : Bool) (truth : Truth) : Truth := bif negated then neg truth else truth

mutual

/-- What a condition of the statement comes to on a row. -/
def Predicate.truth (row : Row) : Predicate → Truth
  | .compare comparison member value => compareTruth reading comparison (row member) value
  | .between member low high =>
      both (compareTruth reading .ge (row member) low) (compareTruth reading .le (row member) high)
  | .isIn negated member values =>
      negateIf negated (disj (values.map (compareTruth reading .eq (row member))))
  | .like negated member operator value =>
      negateIf negated (likeTruth operator (row member) value)
  | .matchesRegex member value => regexTruth reading (row member) value
  | .isNull negated member => negateIf negated (some (row member).isNull)
  | .listContains member value => listTruth (containsTruth reading value) (row member)
  | .listHasAny member values => listTruth (hasAnyTruth reading values) (row member)
  | .listHasAll member values => listTruth (hasAllTruth reading values) (row member)
  | .constant value => some value
  | .and members => conj (Predicate.truths row members)
  | .or members => disj (Predicate.truths row members)

/-- The members of a group, on a row. -/
def Predicate.truths (row : Row) : List Predicate → List Truth
  | [] => []
  | p :: ps => p.truth row :: Predicate.truths row ps

end

def Predicate.Selects (predicate : Predicate) (row : Row) : Prop :=
  predicate.truth reading row = some true

instance (predicate : Predicate) (row : Row) : Decidable (predicate.Selects reading row) :=
  inferInstanceAs (Decidable (_ = _))

end Truth

/-- The value a condition compares with; a date is a moment. -/
def operand : FilterValue → Option Scalar
  | .null => none
  | .string value => some (.text value)
  | .number value => some (.number value.value)
  | .boolean value => some (.boolean value)
  | .date value => some (.timestamp value)

/-- The text a string operator looks for; NULL has none. -/
def operandText (zone : Zone) : FilterValue → Option (List Char)
  | .null => none
  | value => some (getStringFilterValue zone value).toList

/-- What the three string operators ask of the text they look for and the text they
look in. -/
def LikePatternOperator.Relates : LikePatternOperator → List Char → List Char → Prop
  | contains, sought, text => sought <:+: text
  | startsWith, sought, text => sought <+: text
  | endsWith, sought, text => sought <:+ text

section Meaning

variable (zone : Zone) (reading : Reading)

def Cell.Equals (cell : Cell) (value : FilterValue) : Prop :=
  (cell.isNull = true ∧ value = .null) ∨
    ∃ x, operand value = some x ∧ cell.order reading x = some .eq

/-- An order comparison; it does not hold of NULL. -/
def Cell.Compares (comparison : Comparison) (cell : Cell) (value : FilterValue) : Prop :=
  ∃ x, operand value = some x ∧ comparison.holds (cell.order reading x) = true

/-- The list in the cell has the value as an element. -/
def Cell.Has (cell : Cell) (value : FilterValue) : Prop :=
  ∃ elements, cell = .list elements ∧
    ∃ element ∈ elements, (Cell.scalar element).Equals reading value

/-- A text with or without its case. -/
def folded (caseInsensitive : Bool) (text : List Char) : List Char :=
  bif caseInsensitive then text.map reading.fold else text

def Cell.Relates (operator : LikePatternOperator) (caseInsensitive : Bool) (cell : Cell)
    (value : FilterValue) : Prop :=
  ∃ sought text, operandText zone value = some sought ∧ cell.chars = some text ∧
    operator.Relates (folded reading caseInsensitive sought) (folded reading caseInsensitive text)

/-- The regular expression of the value matches the cell's text. -/
def Cell.Matches (caseInsensitive : Bool) (cell : Cell) (value : FilterValue) : Prop :=
  ∃ pattern text, patternText value = some pattern ∧ cell.chars = some text ∧
    reading.regexMatches caseInsensitive pattern (String.ofList text) = true

/-- The negation of a condition.  Whether a row without a value meets it is a convention:
`negatesMissing` says that it does. -/
def Cell.Negates (negatesMissing : Bool) (cell : Cell) (holds : Prop) : Prop :=
  ¬ holds ∧ (cell.isNull = true → negatesMissing = true)

def FilterCondition.Holds (negatesMissing : Bool) (condition : FilterCondition) (row : Row) :
    Prop :=
  let cell := row condition.member
  let values := condition.values.getD []
  let first := values.headD .null
  let second := (values.drop 1).headD .null
  match condition.operator with
  | .equals => cell.Equals reading first
  | .notEquals => cell.Negates negatesMissing (cell.Equals reading first)
  | .gt => cell.Compares reading .gt first
  | .gte => cell.Compares reading .ge first
  | .lt => cell.Compares reading .lt first
  | .lte => cell.Compares reading .le first
  | .between => cell.Compares reading .ge first ∧ cell.Compares reading .le second
  | .contains => cell.Relates zone reading .contains condition.caseInsensitive first
  | .notContains =>
      cell.Negates negatesMissing
        (cell.Relates zone reading .contains condition.caseInsensitive first)
  | .startsWith => cell.Relates zone reading .startsWith condition.caseInsensitive first
  | .endsWith => cell.Relates zone reading .endsWith condition.caseInsensitive first
  | .matchesRegex => cell.Matches reading condition.caseInsensitive first
  | .inList => ∃ value ∈ values, cell.Equals reading value
  | .notIn => cell.Negates negatesMissing (∃ value ∈ values, cell.Equals reading value)
  | .isNull => cell.isNull = true
  | .isNotNull => cell.isNull = false
  | .arrayContains => cell.Has reading first
  | .arrayContainsAny => ∃ value ∈ values, cell.Has reading value
  | .arrayContainsAll => ∀ value ∈ values, cell.Has reading value

mutual

/-- What a filter asks of a row: an `and` group for all its members, an `or` group for
one of them. -/
def FilterExpression.Satisfied (negatesMissing : Bool) (row : Row) : FilterExpression → Prop
  | .condition c => c.Holds zone reading negatesMissing row
  | .and members => FilterExpression.AllSatisfied negatesMissing row members
  | .or members => FilterExpression.AnySatisfied negatesMissing row members

def FilterExpression.AllSatisfied (negatesMissing : Bool) (row : Row) :
    List FilterExpression → Prop
  | [] => True
  | expression :: rest =>
      expression.Satisfied negatesMissing row ∧
        FilterExpression.AllSatisfied negatesMissing row rest

def FilterExpression.AnySatisfied (negatesMissing : Bool) (row : Row) :
    List FilterExpression → Prop
  | [] => False
  | expression :: rest =>
      expression.Satisfied negatesMissing row ∨
        FilterExpression.AnySatisfied negatesMissing row rest

end

end Meaning

mutual

def FilterExpression.parts : FilterExpression → List FilterExpression
  | .condition c => [.condition c]
  | .and members => .and members :: FilterExpression.partsOf members
  | .or members => .or members :: FilterExpression.partsOf members

def FilterExpression.partsOf : List FilterExpression → List FilterExpression
  | [] => []
  | expression :: rest => expression.parts ++ FilterExpression.partsOf rest

end

/-- Induction over filters: conditions, and groups of filters it holds of. -/
@[elab_as_elim]
theorem FilterExpression.induction {motive : FilterExpression → Prop}
    (condition : ∀ c, motive (.condition c))
    (and : ∀ members, (∀ member ∈ members, motive member) → motive (.and members))
    (or : ∀ members, (∀ member ∈ members, motive member) → motive (.or members))
    (expression : FilterExpression) : motive expression := by
  refine FilterExpression.rec (motive_1 := motive)
    (motive_2 := fun members => ∀ member ∈ members, motive member) condition and or ?_ ?_ expression
  · intro member hmember
    cases hmember
  · intro head tail hhead htail
    exact List.forall_mem_cons.2 ⟨hhead, htail⟩

theorem mem_partsOf {members : List FilterExpression} {part : FilterExpression} :
    part ∈ FilterExpression.partsOf members ↔ ∃ member ∈ members, part ∈ member.parts := by
  induction members with
  | nil => simp [FilterExpression.partsOf]
  | cons head tail ih => simp [FilterExpression.partsOf, ih]

theorem self_mem_parts (expression : FilterExpression) : expression ∈ expression.parts := by
  cases expression with
  | condition c => exact List.mem_singleton_self _
  | and members => exact List.mem_cons_self
  | or members => exact List.mem_cons_self

theorem parts_trans {expression part inner : FilterExpression} (hpart : part ∈ expression.parts)
    (hinner : inner ∈ part.parts) : inner ∈ expression.parts := by
  induction expression using FilterExpression.induction with
  | condition c =>
      obtain rfl := List.mem_singleton.1 hpart
      exact hinner
  | and members ih =>
      obtain rfl | hpart := List.mem_cons.1 hpart
      · exact hinner
      · obtain ⟨member, hmember, hpart⟩ := mem_partsOf.1 hpart
        exact List.mem_cons_of_mem _ (mem_partsOf.2 ⟨member, hmember, ih member hmember hpart⟩)
  | or members ih =>
      obtain rfl | hpart := List.mem_cons.1 hpart
      · exact hinner
      · obtain ⟨member, hmember, hpart⟩ := mem_partsOf.1 hpart
        exact List.mem_cons_of_mem _ (mem_partsOf.2 ⟨member, hmember, ih member hmember hpart⟩)

theorem forall₂_exists_right {α β : Type} {R : α → β → Prop} {xs : List α} {ys : List β}
    (h : List.Forall₂ R xs ys) {x : α} (hx : x ∈ xs) : ∃ y ∈ ys, R x y := by
  induction h with
  | nil => cases hx
  | cons hhead htail ih =>
      obtain rfl | hx := List.mem_cons.1 hx
      · exact ⟨_, List.mem_cons_self, hhead⟩
      · obtain ⟨y, hy, hxy⟩ := ih hx
        exact ⟨y, List.mem_cons_of_mem _ hy, hxy⟩

section Groups

variable {zone : Zone} {reading : Reading} {negatesMissing : Bool} {row : Row}
  {members : List FilterExpression}

theorem satisfied_and :
    (FilterExpression.and members).Satisfied zone reading negatesMissing row ↔
      ∀ member ∈ members, member.Satisfied zone reading negatesMissing row := by
  have hall : FilterExpression.AllSatisfied zone reading negatesMissing row members ↔
      ∀ member ∈ members, member.Satisfied zone reading negatesMissing row := by
    induction members with
    | nil => simp [FilterExpression.AllSatisfied]
    | cons head tail ih => simp [FilterExpression.AllSatisfied, ih]
  rw [← hall, FilterExpression.Satisfied]

theorem satisfied_or :
    (FilterExpression.or members).Satisfied zone reading negatesMissing row ↔
      ∃ member ∈ members, member.Satisfied zone reading negatesMissing row := by
  have hany : FilterExpression.AnySatisfied zone reading negatesMissing row members ↔
      ∃ member ∈ members, member.Satisfied zone reading negatesMissing row := by
    induction members with
    | nil => simp [FilterExpression.AnySatisfied]
    | cons head tail ih => simp [FilterExpression.AnySatisfied, ih]
  rw [← hany, FilterExpression.Satisfied]

theorem mem_truths {predicates : List Predicate} {truth : Truth} :
    truth ∈ Predicate.truths reading row predicates ↔
      ∃ predicate ∈ predicates, predicate.truth reading row = truth := by
  induction predicates with
  | nil => simp [Predicate.truths]
  | cons head tail ih => simp [Predicate.truths, ih, eq_comm]

theorem selects_and {predicates : List Predicate} :
    (groupPredicate .and predicates).Selects reading row ↔
      ∀ predicate ∈ predicates, predicate.Selects reading row := by
  match predicates with
  | [] => simp [groupPredicate, Predicate.Selects, Predicate.truth]
  | [predicate] => simp [groupPredicate]
  | first :: second :: rest =>
      simp only [groupPredicate, Predicate.Selects, Predicate.truth, conj_eq_true]
      constructor
      · intro hall predicate hpredicate
        exact hall _ (mem_truths.2 ⟨predicate, hpredicate, rfl⟩)
      · intro hall truth htruth
        obtain ⟨predicate, hpredicate, rfl⟩ := mem_truths.1 htruth
        exact hall predicate hpredicate

theorem selects_or {predicates : List Predicate} (h : predicates ≠ []) :
    (groupPredicate .or predicates).Selects reading row ↔
      ∃ predicate ∈ predicates, predicate.Selects reading row := by
  match predicates with
  | [] => exact absurd rfl h
  | [predicate] => simp [groupPredicate]
  | first :: second :: rest =>
      simp only [groupPredicate, Predicate.Selects, Predicate.truth, disj_eq_true]
      constructor
      · rintro ⟨truth, htruth, htrue⟩
        obtain ⟨predicate, hpredicate, rfl⟩ := mem_truths.1 htruth
        exact ⟨predicate, hpredicate, htrue⟩
      · rintro ⟨predicate, hpredicate, hselects⟩
        exact ⟨_, mem_truths.2 ⟨predicate, hpredicate, rfl⟩, hselects⟩

theorem compileFilterExpressions_ok {predicates : List Predicate}
    (h : compileFilterExpressions zone members = .ok predicates) :
    List.Forall₂ (fun member predicate => compileFilterExpression zone member = .ok predicate)
      members predicates := by
  induction members generalizing predicates with
  | nil =>
      rw [compileFilterExpressions] at h
      cases h
      exact .nil
  | cons head tail ih =>
      rw [compileFilterExpressions] at h
      cases hhead : compileFilterExpression zone head with
      | error error => simp [hhead] at h
      | ok child =>
          cases htail : compileFilterExpressions zone tail with
          | error error => simp [hhead, htail] at h
          | ok children =>
              simp only [hhead, htail, Except.ok.injEq] at h
              subst h
              exact .cons hhead (ih htail)

theorem compile_and_ok {predicate : Predicate}
    (h : compileFilterExpression zone (.and members) = .ok predicate) :
    ∃ children, compileFilterExpressions zone members = .ok children ∧
      predicate = groupPredicate .and children := by
  rw [compileFilterExpression] at h
  cases hchildren : compileFilterExpressions zone members with
  | error error => simp [hchildren] at h
  | ok children =>
      simp only [hchildren, Except.ok.injEq] at h
      exact ⟨children, rfl, h.symm⟩

theorem compile_or_ok {predicate : Predicate}
    (h : compileFilterExpression zone (.or members) = .ok predicate) :
    ∃ children, compileFilterExpressions zone members = .ok children ∧
      predicate = groupPredicate .or children := by
  rw [compileFilterExpression] at h
  cases hchildren : compileFilterExpressions zone members with
  | error error => simp [hchildren] at h
  | ok children =>
      simp only [hchildren, Except.ok.injEq] at h
      exact ⟨children, rfl, h.symm⟩

theorem member_compiles {predicates : List Predicate}
    (h : compileFilterExpressions zone members = .ok predicates) {member : FilterExpression}
    (hmember : member ∈ members) :
    ∃ predicate, compileFilterExpression zone member = .ok predicate := by
  obtain ⟨predicate, -, hcompiles⟩ :=
    forall₂_exists_right (compileFilterExpressions_ok h) hmember
  exact ⟨predicate, hcompiles⟩

theorem part_compiles {expression part : FilterExpression} {predicate : Predicate}
    (h : compileFilterExpression zone expression = .ok predicate)
    (hpart : part ∈ expression.parts) :
    ∃ inner, compileFilterExpression zone part = .ok inner := by
  induction expression using FilterExpression.induction generalizing predicate with
  | condition c =>
      obtain rfl := List.mem_singleton.1 hpart
      exact ⟨predicate, h⟩
  | and members ih =>
      obtain rfl | hpart := List.mem_cons.1 hpart
      · exact ⟨predicate, h⟩
      · obtain ⟨children, hchildren, -⟩ := compile_and_ok h
        obtain ⟨member, hmember, hpart⟩ := mem_partsOf.1 hpart
        obtain ⟨inner, hinner⟩ := member_compiles hchildren hmember
        exact ih member hmember hinner hpart
  | or members ih =>
      obtain rfl | hpart := List.mem_cons.1 hpart
      · exact ⟨predicate, h⟩
      · obtain ⟨children, hchildren, -⟩ := compile_or_ok h
        obtain ⟨member, hmember, hpart⟩ := mem_partsOf.1 hpart
        obtain ⟨inner, hinner⟩ := member_compiles hchildren hmember
        exact ih member hmember hinner hpart

end Groups

/-- The database reads the text of a date as that moment. -/
def Reads (reading : Reading) (value : FilterValue) : Prop :=
  ∀ moment, value = .date moment → reading.timestamp (toISOString moment) = some moment

section Conditions

variable {reading : Reading} {cell : Cell} {value : FilterValue} {values : List FilterValue}

theorem order_of_isNull (h : cell.isNull = true) (x : Scalar) : cell.order reading x = none := by
  cases cell with
  | list elements => rfl
  | scalar content =>
      cases content with
      | none => rfl
      | some s => cases h

theorem operand_eq_none : operand value = none ↔ value = .null := by
  cases value <;> simp [operand]

theorem order_literal (h : Reads reading value) (cell : Cell) :
    (literal value).map (cell.order reading) = (operand value).map (cell.order reading) := by
  cases value with
  | null => rfl
  | string v => rfl
  | number v => rfl
  | boolean v => rfl
  | date moment =>
      have hread := h moment rfl
      cases cell with
      | list elements => rfl
      | scalar content =>
          cases content with
          | none => rfl
          | some s => cases s <;> simp [literal, operand, Cell.order, compareScalars, hread]

theorem compareTruth_eq_some (h : Reads reading value) {comparison : Comparison} {b : Bool} :
    compareTruth reading comparison cell value = some b ↔
      cell.isNull = false ∧
        ∃ x, operand value = some x ∧ comparison.holds (cell.order reading x) = b := by
  have horder := congrArg (Option.map comparison.holds) (order_literal h cell)
  simp only [Option.map_map] at horder
  cases hnull : cell.isNull with
  | true => simp [compareTruth, hnull]
  | false =>
      have htruth : compareTruth reading comparison cell value =
          (operand value).map (comparison.holds ∘ cell.order reading) := by
        rw [← horder]
        simp [compareTruth, hnull, Function.comp_def]
      rw [htruth, Option.map_eq_some_iff]
      simp

theorem equals_iff (hvalue : value ≠ .null) :
    cell.Equals reading value ↔
      ∃ x, operand value = some x ∧ cell.order reading x = some .eq := by
  simp [Cell.Equals, hvalue]

theorem isNull_false_of_order {x : Scalar} {order : Ordering}
    (h : cell.order reading x = some order) : cell.isNull = false := by
  by_contra hnull
  rw [order_of_isNull (by simpa using hnull)] at h
  cases h

theorem compareTruth_eq_iff (h : Reads reading value) :
    compareTruth reading .eq cell value = some true ↔
      value ≠ .null ∧ cell.Equals reading value := by
  rw [compareTruth_eq_some h]
  constructor
  · rintro ⟨-, x, hx, hholds⟩
    have hvalue : value ≠ .null := by
      intro hnull
      rw [operand_eq_none.2 hnull] at hx
      cases hx
    exact ⟨hvalue, .inr ⟨x, hx, by simpa [Comparison.holds] using hholds⟩⟩
  · intro ⟨hvalue, hequals⟩
    obtain ⟨x, hx, horder⟩ := (equals_iff hvalue).1 hequals
    exact ⟨isNull_false_of_order horder, x, hx, by simp [Comparison.holds, horder]⟩

/-- The equality with a literal is false on the values other than it. -/
theorem compareTruth_eq_false_iff (h : Reads reading value) :
    compareTruth reading .eq cell value = some false ↔
      value ≠ .null ∧ cell.isNull = false ∧ ¬ cell.Equals reading value := by
  rw [compareTruth_eq_some h]
  by_cases hvalue : value = .null
  · subst hvalue
    simp [operand]
  · obtain ⟨x, hx⟩ := Option.ne_none_iff_exists'.1 (mt operand_eq_none.1 hvalue)
    simp [equals_iff hvalue, hx, hvalue, Comparison.holds]

theorem compareTruth_ne (cell : Cell) (value : FilterValue) :
    compareTruth reading .ne cell value = some true ↔
      compareTruth reading .eq cell value = some false := by
  cases hnull : cell.isNull with
  | true => simp [compareTruth, hnull]
  | false => simp [compareTruth, hnull, Comparison.holds]

theorem compareTruth_order_iff (h : Reads reading value) {comparison : Comparison}
    (hcomparison : comparison.holds none = false) :
    compareTruth reading comparison cell value = some true ↔
      cell.Compares reading comparison value := by
  rw [compareTruth_eq_some h]
  constructor
  · intro ⟨_, hholds⟩
    exact hholds
  · rintro ⟨x, hx, hholds⟩
    refine ⟨?_, x, hx, hholds⟩
    cases horder : cell.order reading x with
    | none =>
        rw [horder, hcomparison] at hholds
        cases hholds
    | some order => exact isNull_false_of_order horder

theorem isIn_iff (h : ∀ value ∈ values, Reads reading value) :
    disj (values.map (compareTruth reading .eq cell)) = some true ↔
      ∃ value ∈ values, value ≠ .null ∧ cell.Equals reading value := by
  rw [disj_eq_true]
  constructor
  · rintro ⟨t, ht, htrue⟩
    obtain ⟨value, hvalue, rfl⟩ := List.mem_map.1 ht
    exact ⟨value, hvalue, (compareTruth_eq_iff (h value hvalue)).1 htrue⟩
  · rintro ⟨value, hvalue, hequals⟩
    exact ⟨_, List.mem_map_of_mem hvalue, (compareTruth_eq_iff (h value hvalue)).2 hequals⟩

theorem notIn_iff (h : ∀ value ∈ values, Reads reading value) :
    neg (disj (values.map (compareTruth reading .eq cell))) = some true ↔
      ∀ value ∈ values, value ≠ .null ∧ cell.isNull = false ∧ ¬ cell.Equals reading value := by
  rw [neg_eq_true, disj_eq_false, List.forall_mem_map]
  refine forall₂_congr fun value hvalue => ?_
  exact compareTruth_eq_false_iff (h value hvalue)

theorem like_likePattern (operator : LikePatternOperator) (value : String) (text : List Char) :
    like (wildcards '\\' false (likePattern value operator)) text = true ↔
      operator.Relates value.toList text := by
  have hpercent : ∀ rest, wildcards '\\' false ('%' :: rest) =
      .anyText :: wildcards '\\' false rest := by
    intro rest
    rfl
  have hescaped := wildcards_escapeLike '\\' value.toList
  cases operator with
  | contains =>
      rw [likePattern, hpercent, hescaped]
      exact like_contains value.toList text
  | startsWith =>
      rw [likePattern, hescaped]
      exact like_startsWith value.toList text
  | endsWith =>
      have hend := hescaped []
      rw [List.append_nil] at hend
      rw [likePattern, hpercent, hend, wildcards, List.append_nil]
      exact like_endsWith value.toList text

theorem isNull_false_of_chars {text : List Char} (h : cell.chars = some text) :
    cell.isNull = false := by
  cases cell with
  | list elements => cases h
  | scalar content =>
      cases content with
      | none => cases h
      | some s => rfl

theorem likeTruth_eq_some {operator : LikePatternOperator} {sought : String} {b : Bool} :
    likeTruth operator cell sought = some b ↔
      cell.isNull = false ∧
        (b = true ↔ ∃ text, cell.chars = some text ∧ operator.Relates sought.toList text) := by
  cases hnull : cell.isNull with
  | true => simp [likeTruth, hnull]
  | false =>
      have hiff : cell.chars.any (like (wildcards '\\' false (likePattern sought operator))) =
          true ↔ ∃ text, cell.chars = some text ∧ operator.Relates sought.toList text := by
        rw [Option.any_eq_true]
        exact exists_congr fun text => and_congr_right fun _ => like_likePattern _ _ _
      rw [← hiff]
      cases b <;> simp [likeTruth, hnull]

theorem regexTruth_iff :
    regexTruth reading cell value = some true ↔ cell.Matches reading false value := by
  cases hnull : cell.isNull with
  | true =>
      have hchars : ∀ text, cell.chars ≠ some text := by
        intro text htext
        rw [isNull_false_of_chars htext] at hnull
        cases hnull
      simp [regexTruth, hnull, Cell.Matches, hchars]
  | false => simp [regexTruth, hnull, Cell.Matches, Option.map_eq_some_iff, Option.any_eq_true]

theorem listed_iff (h : Reads reading value) {elements : List (Option Scalar)} :
    listed reading elements value = true ↔
      value ≠ .null ∧ (Cell.list elements).Has reading value := by
  have hany : listed reading elements value = true ↔
      ∃ element ∈ elements, compareTruth reading .eq (.scalar element) value = some true := by
    simp only [listed, Option.any_eq_true, List.any_eq_true]
    constructor
    · rintro ⟨x, hx, element, helement, horder⟩
      have horder : (Cell.scalar element).order reading x = some .eq := by simpa using horder
      refine ⟨element, helement, ?_⟩
      simp [compareTruth, isNull_false_of_order horder, hx, Comparison.holds, horder]
    · rintro ⟨element, helement, htruth⟩
      cases hnull : (Cell.scalar element).isNull with
      | true => simp [compareTruth, hnull] at htruth
      | false =>
          simp only [compareTruth, hnull, Bool.false_eq_true, if_false,
            Option.map_eq_some_iff] at htruth
          obtain ⟨x, hx, hholds⟩ := htruth
          exact ⟨x, hx, element, helement, by simpa [Comparison.holds] using hholds⟩
  rw [hany]
  constructor
  · rintro ⟨element, helement, htruth⟩
    obtain ⟨hvalue, hequals⟩ := (compareTruth_eq_iff h).1 htruth
    exact ⟨hvalue, elements, rfl, element, helement, hequals⟩
  · rintro ⟨hvalue, elements', helements, element, helement, hequals⟩
    obtain rfl := Cell.list.inj helements
    exact ⟨element, helement, (compareTruth_eq_iff h).2 ⟨hvalue, hequals⟩⟩

theorem listTruth_iff {function : List (Option Scalar) → Truth} :
    listTruth function cell = some true ↔
      ∃ elements, cell = .list elements ∧ function elements = some true := by
  cases cell with
  | list elements => simp [listTruth]
  | scalar content => cases content <;> simp [listTruth]

theorem containsTruth_iff (h : Reads reading value) :
    listTruth (containsTruth reading value) cell = some true ↔
      value ≠ .null ∧ cell.Has reading value := by
  have hlist : ∀ elements, containsTruth reading value elements = some true ↔
      value ≠ .null ∧ (Cell.list elements).Has reading value := by
    intro elements
    by_cases hvalue : value = .null
    · simp [containsTruth, hvalue]
    · simp [containsTruth, hvalue, listed_iff h]
  rw [listTruth_iff]
  constructor
  · rintro ⟨elements, rfl, htruth⟩
    exact (hlist elements).1 htruth
  · rintro ⟨hvalue, hhas⟩
    obtain ⟨elements, rfl, -⟩ := id hhas
    exact ⟨elements, rfl, (hlist elements).2 ⟨hvalue, hhas⟩⟩

theorem hasAnyTruth_iff (h : ∀ value ∈ values, Reads reading value) :
    listTruth (hasAnyTruth reading values) cell = some true ↔
      ∃ value ∈ values, value ≠ .null ∧ cell.Has reading value := by
  rw [listTruth_iff]
  simp only [hasAnyTruth, Option.some.injEq, List.any_eq_true]
  constructor
  · rintro ⟨elements, rfl, value, hvalue, hlisted⟩
    exact ⟨value, hvalue, (listed_iff (h value hvalue)).1 hlisted⟩
  · rintro ⟨value, hvalue, hnull, hhas⟩
    obtain ⟨elements, rfl, -⟩ := id hhas
    exact ⟨elements, rfl, value, hvalue, (listed_iff (h value hvalue)).2 ⟨hnull, hhas⟩⟩

theorem hasAllTruth_iff (h : ∀ value ∈ values, Reads reading value) :
    listTruth (hasAllTruth reading values) cell = some true ↔
      (∃ elements, cell = .list elements) ∧
        ∀ value ∈ values, value ≠ .null → cell.Has reading value := by
  have hlist : ∀ elements, hasAllTruth reading values elements = some true ↔
      ∀ value ∈ values, value ≠ .null → (Cell.list elements).Has reading value := by
    intro elements
    simp only [hasAllTruth, Option.some.injEq, List.all_eq_true, decide_eq_true_eq]
    refine forall₂_congr fun value hvalue => ?_
    rw [listed_iff (h value hvalue)]
    tauto
  rw [listTruth_iff]
  constructor
  · rintro ⟨elements, rfl, htruth⟩
    exact ⟨⟨elements, rfl⟩, (hlist elements).1 htruth⟩
  · rintro ⟨⟨elements, rfl⟩, hall⟩
    exact ⟨elements, rfl, (hlist elements).2 hall⟩

end Conditions

end QueryEngine

end Zentra
