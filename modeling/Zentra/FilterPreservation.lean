import Zentra.FilterMeaning

/-!
# Filters that keep their meaning

Where the statement asks for what the filter asks for.  Three things do not get into the
text: a NULL among the values of a condition is compared with as SQL compares with NULL,
`caseInsensitive` is not read, and an `or` group without members becomes TRUE.

* `meansSame_iff` — the same for all parts of a filter;
* `emptyOr_selects` — a filter that selects a row it does not hold of.
-/

open SqlText SqlLogic JsDate

namespace Zentra

namespace QueryEngine

section Kept

variable (zone : Zone) (reading : Reading)

/-- No other character is the same as one of the text without its case. -/
def Caseless (text : List Char) : Prop :=
  ∀ c ∈ text, ∀ d, reading.fold d = reading.fold c → d = c

/-- A value that `LIKE` looks for as the operator asks. -/
def TextKept (caseInsensitive : Bool) (value : FilterValue) : Prop :=
  value ≠ .null ∧
    (caseInsensitive = true → Caseless reading (getStringFilterValue zone value).toList)

/-- **The conditions that keep their meaning.**  A comparison for equality or with a text
has no NULL among its values, what a string operator looks for is the same in either
case if the case is to be ignored, and rows without a value do not meet a negation. -/
def FilterCondition.Kept (negatesMissing : Bool) (condition : FilterCondition) : Prop :=
  let values := condition.values.getD []
  let first := values.headD .null
  match condition.operator with
  | .equals => first ≠ .null
  | .notEquals => first ≠ .null ∧ negatesMissing = false
  | .inList => .null ∉ values
  | .notIn => .null ∉ values ∧ negatesMissing = false
  | .contains => TextKept zone reading condition.caseInsensitive first
  | .notContains =>
      TextKept zone reading condition.caseInsensitive first ∧ negatesMissing = false
  | .startsWith => TextKept zone reading condition.caseInsensitive first
  | .endsWith => TextKept zone reading condition.caseInsensitive first
  | .matchesRegex =>
      ∀ pattern, patternText first = some pattern → ∀ text,
        reading.regexMatches false pattern text =
          reading.regexMatches condition.caseInsensitive pattern text
  | .arrayContains => first ≠ .null
  | .arrayContainsAny => .null ∉ values
  | .arrayContainsAll => .null ∉ values
  | _ => True

/-- A condition or a group of its own, whatever its members: an `or` group has some. -/
def FilterExpression.Kept (negatesMissing : Bool) : FilterExpression → Prop
  | .condition c => c.Kept zone reading negatesMissing
  | .and _ => True
  | .or members => members ≠ []

/-- The text of a filter selects the rows it holds of. -/
def FilterExpression.MeansSame (negatesMissing : Bool) (expression : FilterExpression) : Prop :=
  ∀ predicate, compileFilterExpression zone expression = .ok predicate →
    ∀ row, predicate.Selects reading row ↔
      expression.Satisfied zone reading negatesMissing row

end Kept

section Folding

variable {reading : Reading} {sought text : List Char}

theorem Caseless.eq_of_map (h : Caseless reading sought)
    (hmap : text.map reading.fold = sought.map reading.fold) : text = sought := by
  induction sought generalizing text with
  | nil => simpa using hmap
  | cons c cs ih =>
      obtain ⟨d, rest, rfl, hd, hrest⟩ := List.map_eq_cons_iff.1 hmap
      rw [h c List.mem_cons_self d hd,
        ih (fun x hx => h x (List.mem_cons_of_mem c hx)) hrest]

theorem exists_variant (h : ¬ Caseless reading sought) :
    ∃ text, text ≠ sought ∧ text.length = sought.length ∧
      text.map reading.fold = sought.map reading.fold := by
  simp only [Caseless, not_forall] at h
  obtain ⟨c, hc, d, hfold, hne⟩ := h
  obtain ⟨before, after, rfl⟩ := List.append_of_mem hc
  refine ⟨before ++ d :: after, ?_, by simp, by simp [hfold]⟩
  intro heq
  exact hne (List.cons.inj (List.append_cancel_left heq)).1

theorem Caseless.relates_iff (h : Caseless reading sought) (operator : LikePatternOperator) :
    operator.Relates (sought.map reading.fold) (text.map reading.fold) ↔
      operator.Relates sought text := by
  cases operator with
  | contains =>
      constructor
      · rintro ⟨before, after, heq⟩
        obtain ⟨xs, zs, rfl, hxs, -⟩ := List.map_eq_append_iff.1 heq.symm
        obtain ⟨xs, ys, rfl, -, hys⟩ := List.map_eq_append_iff.1 hxs
        rw [h.eq_of_map hys]
        exact ⟨xs, zs, rfl⟩
      · exact fun hinfix => hinfix.map reading.fold
  | startsWith =>
      constructor
      · rintro ⟨after, heq⟩
        obtain ⟨ys, zs, rfl, hys, -⟩ := List.map_eq_append_iff.1 heq.symm
        rw [h.eq_of_map hys]
        exact ⟨zs, rfl⟩
      · exact fun hprefix => hprefix.map reading.fold
  | endsWith =>
      constructor
      · rintro ⟨before, heq⟩
        obtain ⟨xs, ys, rfl, -, hys⟩ := List.map_eq_append_iff.1 heq.symm
        rw [h.eq_of_map hys]
        exact ⟨xs, rfl⟩
      · exact fun hsuffix => hsuffix.map reading.fold

theorem LikePatternOperator.relates_refl (operator : LikePatternOperator) (text : List Char) :
    operator.Relates text text := by
  cases operator with
  | contains => exact List.infix_refl text
  | startsWith => exact List.prefix_refl text
  | endsWith => exact List.suffix_refl text

theorem LikePatternOperator.Relates.eq_of_length {operator : LikePatternOperator}
    (h : operator.Relates sought text) (hlength : sought.length = text.length) :
    sought = text := by
  cases operator with
  | contains => exact List.IsInfix.eq_of_length h hlength
  | startsWith => exact List.IsPrefix.eq_of_length h hlength
  | endsWith => exact List.IsSuffix.eq_of_length h hlength

end Folding

section Conditions

variable {zone : Zone} {reading : Reading} {negatesMissing : Bool} {cell : Cell}
  {value : FilterValue} {values : List FilterValue}

theorem operandText_of_ne_null (h : value ≠ .null) :
    operandText zone value = some (getStringFilterValue zone value).toList := by
  cases value with
  | null => exact absurd rfl h
  | string v => rfl
  | number v => rfl
  | boolean v => rfl
  | date v => rfl

theorem TextKept.relates_iff {caseInsensitive : Bool} (h : TextKept zone reading caseInsensitive value)
    (operator : LikePatternOperator) (cell : Cell) :
    cell.Relates zone reading operator caseInsensitive value ↔
      ∃ text, cell.chars = some text ∧
        operator.Relates (getStringFilterValue zone value).toList text := by
  have hsame : ∀ text, operator.Relates
      (folded reading caseInsensitive (getStringFilterValue zone value).toList)
      (folded reading caseInsensitive text) ↔
        operator.Relates (getStringFilterValue zone value).toList text := by
    intro text
    cases caseInsensitive with
    | false => exact Iff.rfl
    | true => exact (h.2 rfl).relates_iff operator
  simp [Cell.Relates, operandText_of_ne_null h.1, hsame]

theorem likeTruth_of_kept {caseInsensitive : Bool} (h : TextKept zone reading caseInsensitive value)
    (operator : LikePatternOperator) (cell : Cell) :
    likeTruth operator cell (getStringFilterValue zone value) = some true ↔
      cell.Relates zone reading operator caseInsensitive value := by
  rw [likeTruth_eq_some, h.relates_iff]
  constructor
  · intro ⟨_, hrelates⟩
    exact hrelates.1 rfl
  · intro hrelates
    obtain ⟨text, htext, -⟩ := id hrelates
    exact ⟨isNull_false_of_chars htext, fun _ => hrelates, fun _ => rfl⟩

theorem negates_iff (h : negatesMissing = false) {holds : Prop} :
    cell.Negates negatesMissing holds ↔ cell.isNull = false ∧ ¬ holds := by
  simp [Cell.Negates, h, and_comm]

theorem notLikeTruth_of_kept {caseInsensitive : Bool}
    (h : TextKept zone reading caseInsensitive value) (operator : LikePatternOperator)
    (cell : Cell) :
    neg (likeTruth operator cell (getStringFilterValue zone value)) = some true ↔
      cell.Negates false (cell.Relates zone reading operator caseInsensitive value) := by
  rw [neg_eq_true, likeTruth_eq_some, ← h.relates_iff operator cell]
  simp [negates_iff]

/-- The values of a condition that compiles: some, if its operator needs some. -/
theorem compileFilterCondition_ok {condition : FilterCondition} {predicate : Predicate}
    (h : compileFilterCondition zone condition = .ok predicate) :
    predicate = conditionPredicate zone condition (condition.values.getD []) ∧
      (operatorRequiresValues condition.operator = true → condition.values.getD [] ≠ []) := by
  unfold compileFilterCondition at h
  cases hvalidate : validateFilterValues condition (condition.values.getD []) with
  | error error => simp [hvalidate] at h
  | ok u =>
      have hpredicate : conditionPredicate zone condition (condition.values.getD []) =
          predicate := by simpa [hvalidate] using h
      refine ⟨hpredicate.symm, ?_⟩
      intro hrequires hnil
      simp [validateFilterValues, hrequires, hnil] at hvalidate

theorem reads_headD (h : ∀ value ∈ values, Reads reading value) :
    Reads reading (values.headD .null) := by
  cases values with
  | nil => intro moment hmoment; cases hmoment
  | cons value rest => exact h value List.mem_cons_self

theorem reads_second (h : ∀ value ∈ values, Reads reading value) :
    Reads reading ((values.drop 1).headD .null) :=
  reads_headD fun value hvalue => h value (List.mem_of_mem_drop hvalue)

theorem ne_null_of_mem (h : .null ∉ values) (hvalue : value ∈ values) : value ≠ .null := by
  intro hnull
  exact h (hnull ▸ hvalue)

/-- **A kept condition.**  Its text selects the rows it holds of. -/
theorem selects_iff_of_kept {condition : FilterCondition} {predicate : Predicate}
    (hcompiles : compileFilterCondition zone condition = .ok predicate)
    (hreads : ∀ value ∈ condition.values.getD [], Reads reading value)
    (hkept : condition.Kept zone reading negatesMissing) (row : Row) :
    predicate.Selects reading row ↔ condition.Holds zone reading negatesMissing row := by
  obtain ⟨rfl, hvalues⟩ := compileFilterCondition_ok hcompiles
  obtain ⟨member, operator, given, caseInsensitive⟩ := condition
  have hfirst := reads_headD hreads
  have hsecond := reads_second hreads
  cases operator with
  | equals =>
      refine (compareTruth_eq_iff hfirst).trans ?_
      exact and_iff_right hkept
  | notEquals =>
      refine (compareTruth_ne _ _).trans ((compareTruth_eq_false_iff hfirst).trans ?_)
      exact (and_iff_right hkept.1).trans (negates_iff hkept.2).symm
  | gt => exact compareTruth_order_iff hfirst rfl
  | gte => exact compareTruth_order_iff hfirst rfl
  | lt => exact compareTruth_order_iff hfirst rfl
  | lte => exact compareTruth_order_iff hfirst rfl
  | between =>
      refine both_eq_true.trans (and_congr ?_ ?_)
      · exact compareTruth_order_iff hfirst rfl
      · exact compareTruth_order_iff hsecond rfl
  | contains => exact likeTruth_of_kept hkept .contains _
  | notContains =>
      refine (notLikeTruth_of_kept hkept.1 .contains _).trans ?_
      rw [← hkept.2]
      exact Iff.rfl
  | startsWith => exact likeTruth_of_kept hkept .startsWith _
  | endsWith => exact likeTruth_of_kept hkept .endsWith _
  | matchesRegex =>
      refine regexTruth_iff.trans ?_
      refine exists_congr fun pattern => exists_congr fun text => ?_
      refine and_congr_right fun hpattern => and_congr_right fun _ => ?_
      rw [hkept pattern hpattern]
  | inList =>
      simp only [conditionPredicate, if_neg (hvalues rfl)]
      refine (isIn_iff hreads).trans ?_
      refine exists_congr fun value => and_congr_right fun hvalue => ?_
      exact and_iff_right (ne_null_of_mem hkept hvalue)
  | notIn =>
      simp only [conditionPredicate, if_neg (hvalues rfl)]
      refine (notIn_iff hreads).trans ?_
      obtain ⟨hnull, hmissing⟩ := hkept
      obtain ⟨some, hsome⟩ := List.exists_mem_of_ne_nil _ (hvalues rfl)
      refine Iff.trans ?_ (negates_iff hmissing).symm
      constructor
      · intro hall
        refine ⟨(hall some hsome).2.1, ?_⟩
        intro ⟨value, hvalue, hequals⟩
        exact (hall value hvalue).2.2 hequals
      · intro ⟨hcell, hnot⟩ value hvalue
        exact ⟨ne_null_of_mem hnull hvalue, hcell, fun h => hnot ⟨value, hvalue, h⟩⟩
  | isNull => exact Option.some_inj
  | isNotNull =>
      refine Iff.trans (b := neg (some (row member).isNull) = some true) Iff.rfl ?_
      exact neg_eq_true.trans Option.some_inj
  | arrayContains =>
      refine (containsTruth_iff hfirst).trans ?_
      exact and_iff_right hkept
  | arrayContainsAny =>
      simp only [conditionPredicate, if_neg (hvalues rfl)]
      refine (hasAnyTruth_iff hreads).trans ?_
      refine exists_congr fun value => and_congr_right fun hvalue => ?_
      exact and_iff_right (ne_null_of_mem hkept hvalue)
  | arrayContainsAll =>
      simp only [conditionPredicate, if_neg (hvalues rfl)]
      refine (hasAllTruth_iff hreads).trans ?_
      obtain ⟨some, hsome⟩ := List.exists_mem_of_ne_nil _ (hvalues rfl)
      constructor
      · intro ⟨_, hall⟩ value hvalue
        exact hall value hvalue (ne_null_of_mem hkept hvalue)
      · intro hall
        obtain ⟨elements, helements, -⟩ := hall some hsome
        exact ⟨⟨elements, helements⟩, fun value hvalue _ => hall value hvalue⟩

theorem equals_list (elements : List (Option Scalar)) :
    ¬ (Cell.list elements).Equals reading value := by
  rintro (⟨hnull, -⟩ | ⟨x, -, horder⟩)
  · cases hnull
  · cases horder

theorem equals_missing : (Cell.scalar none).Equals reading value ↔ value = .null := by
  constructor
  · rintro (⟨-, hnull⟩ | ⟨x, -, horder⟩)
    · exact hnull
    · cases horder
  · exact fun hnull => .inl ⟨rfl, hnull⟩

theorem has_missing : (Cell.list [none]).Has reading value ↔ value = .null := by
  constructor
  · rintro ⟨elements, helements, element, helement, hequals⟩
    obtain rfl := Cell.list.inj helements
    obtain rfl := List.mem_singleton.1 helement
    exact equals_missing.1 hequals
  · exact fun hnull => ⟨[none], rfl, none, List.mem_singleton_self _, equals_missing.2 hnull⟩

theorem negates_list {elements : List (Option Scalar)} {holds : Prop} (h : ¬ holds) :
    (Cell.list elements).Negates negatesMissing holds := by
  refine ⟨h, fun hnull => ?_⟩
  cases hnull

/-- A negation that no row without a value is selected for, and that one meets iff
missing values meet negations. -/
theorem not_negatesMissing {holds selects : Prop} (hselects : ¬ selects) (hholds : ¬ holds)
    (h : selects ↔ (Cell.scalar none).Negates negatesMissing holds) :
    negatesMissing = false := by
  by_contra hmissing
  exact hselects (h.2 ⟨hholds, fun _ => by simpa using hmissing⟩)

theorem compareScalars_self (x : Scalar) : compareScalars reading x x = some .eq := by
  cases x <;> simp [compareScalars]

theorem has_operands (hvalue : value ∈ values) (hne : value ≠ .null) :
    (Cell.list ((values.filterMap operand).map some)).Has reading value := by
  obtain ⟨x, hx⟩ := Option.ne_none_iff_exists'.1 (mt operand_eq_none.1 hne)
  refine ⟨_, rfl, some x, ?_, .inr ⟨x, hx, compareScalars_self x⟩⟩
  exact List.mem_map_of_mem (List.mem_filterMap.2 ⟨value, hvalue, hx⟩)

theorem matches_text {pattern : String} (h : patternText value = some pattern) (text : String)
    (caseInsensitive : Bool) :
    (Cell.scalar (some (.text text))).Matches reading caseInsensitive value ↔
      reading.regexMatches caseInsensitive pattern text = true := by
  simp [Cell.Matches, h, Cell.chars]

theorem likeTruth_self {operator : LikePatternOperator} {sought : String} :
    likeTruth operator (.scalar (some (.text sought))) sought = some true :=
  likeTruth_eq_some.2 ⟨rfl, fun _ => ⟨_, rfl, operator.relates_refl _⟩, fun _ => rfl⟩

/-- A NULL that is looked for in a text is not kept, and neither is a case to be ignored:
some text tells the operator and its pattern apart. -/
theorem textKept_of_likeTruth_iff {operator : LikePatternOperator} {caseInsensitive : Bool}
    (h : ∀ text : String,
      likeTruth operator (.scalar (some (.text text))) (getStringFilterValue zone value) =
          some true ↔
        (Cell.scalar (some (.text text))).Relates zone reading operator caseInsensitive value) :
    TextKept zone reading caseInsensitive value := by
  have hvalue : value ≠ .null := by
    rintro rfl
    obtain ⟨_, _, hsought, -⟩ := (h "null").1 likeTruth_self
    cases hsought
  refine ⟨hvalue, ?_⟩
  rintro rfl
  by_contra hcase
  obtain ⟨text, hne, hlength, hmap⟩ := exists_variant hcase
  have hrelates : (Cell.scalar (some (.text (String.ofList text)))).Relates zone reading operator
      true value := by
    refine ⟨_, text, operandText_of_ne_null hvalue, by simp [Cell.chars], ?_⟩
    simp only [folded, cond_true, hmap]
    exact operator.relates_refl _
  obtain ⟨-, hiff⟩ := likeTruth_eq_some.1 ((h _).2 hrelates)
  obtain ⟨read, hchars, hplain⟩ := hiff.1 rfl
  have hread : text = read := by simpa [Cell.chars] using hchars
  subst hread
  exact hne (hplain.eq_of_length hlength.symm).symm

theorem likeTruth_iff_of_not {operator : LikePatternOperator} {sought text : String}
    {holds : Prop}
    (h : neg (likeTruth operator (.scalar (some (.text text))) sought) = some true ↔
      (Cell.scalar (some (.text text))).Negates negatesMissing holds) :
    likeTruth operator (.scalar (some (.text text))) sought = some true ↔ holds := by
  have hnegates : (Cell.scalar (some (.text text))).Negates negatesMissing holds ↔ ¬ holds := by
    simp [Cell.Negates, Cell.isNull]
  rw [hnegates] at h
  cases htruth : likeTruth operator (.scalar (some (.text text))) sought with
  | none => simp [likeTruth, Cell.isNull] at htruth
  | some b =>
      rw [htruth] at h
      cases b with
      | false =>
          have hnot : ¬ holds := h.1 rfl
          simp [hnot]
      | true =>
          have hholds : holds := by
            by_contra hnot
            simpa [neg] using h.2 hnot
          simp [hholds]

/-- **Only kept conditions.**  A condition whose text selects exactly the rows it holds
of is kept. -/
theorem kept_of_selects_iff {condition : FilterCondition} {predicate : Predicate}
    (hcompiles : compileFilterCondition zone condition = .ok predicate)
    (hreads : ∀ value ∈ condition.values.getD [], Reads reading value)
    (h : ∀ row, predicate.Selects reading row ↔
      condition.Holds zone reading negatesMissing row) :
    condition.Kept zone reading negatesMissing := by
  obtain ⟨rfl, hvalues⟩ := compileFilterCondition_ok hcompiles
  obtain ⟨member, operator, given, caseInsensitive⟩ := condition
  have hfirst := reads_headD hreads
  have hat := fun cell => h fun _ => cell
  cases operator with
  | equals =>
      intro hnull
      have hholds := (hat (.scalar none)).2 (.inl ⟨rfl, hnull⟩)
      exact ((compareTruth_eq_iff hfirst).1 hholds).1 hnull
  | notEquals =>
      have hne : ((given.getD []).headD .null) ≠ .null := by
        have hholds := (hat (.list [])).2 (negates_list (equals_list []))
        exact ((compareTruth_eq_false_iff hfirst).1 ((compareTruth_ne _ _).1 hholds)).1
      refine ⟨hne, not_negatesMissing ?_ (mt equals_missing.1 hne) (hat (.scalar none))⟩
      intro hselects
      obtain ⟨-, hvalue, -⟩ :=
        (compareTruth_eq_false_iff hfirst).1 ((compareTruth_ne _ _).1 hselects)
      cases hvalue
  | gt => trivial
  | gte => trivial
  | lt => trivial
  | lte => trivial
  | between => trivial
  | contains => exact textKept_of_likeTruth_iff fun text => hat (.scalar (some (.text text)))
  | notContains =>
      have hkept : TextKept zone reading caseInsensitive ((given.getD []).headD .null) :=
        textKept_of_likeTruth_iff fun text =>
          likeTruth_iff_of_not (hat (.scalar (some (.text text))))
      refine ⟨hkept, not_negatesMissing ?_ ?_ (hat (.scalar none))⟩
      · intro hselects
        cases hselects
      · rintro ⟨_, _, -, hchars, -⟩
        cases hchars
  | startsWith => exact textKept_of_likeTruth_iff fun text => hat (.scalar (some (.text text)))
  | endsWith => exact textKept_of_likeTruth_iff fun text => hat (.scalar (some (.text text)))
  | matchesRegex =>
      intro pattern hpattern text
      have htext := regexTruth_iff.symm.trans (hat (.scalar (some (.text text))))
      have hiff := (matches_text hpattern text false).symm.trans
        (htext.trans (matches_text hpattern text caseInsensitive))
      exact Bool.eq_iff_iff.2 hiff
  | inList =>
      intro hnull
      have hselects := (hat (.scalar none)).2 ⟨.null, hnull, equals_missing.2 rfl⟩
      simp only [conditionPredicate, if_neg (hvalues rfl)] at hselects
      obtain ⟨value, -, hne, hequals⟩ := (isIn_iff hreads).1 hselects
      exact hne (equals_missing.1 hequals)
  | notIn =>
      have hin : ∀ cell, neg (disj ((given.getD []).map (compareTruth reading .eq cell))) =
          some true ↔ cell.Negates negatesMissing
            (∃ value ∈ given.getD [], cell.Equals reading value) := by
        intro cell
        have hcell := hat cell
        simp only [conditionPredicate, if_neg (hvalues rfl)] at hcell
        exact hcell
      have hnone : .null ∉ given.getD [] := by
        intro hnull
        have hselects := (hin (.list [])).2
          (negates_list fun ⟨value, _, hequals⟩ => equals_list [] hequals)
        exact ((notIn_iff hreads).1 hselects .null hnull).1 rfl
      refine ⟨hnone, not_negatesMissing ?_ ?_ (hin (.scalar none))⟩
      · intro hselects
        obtain ⟨value, hvalue⟩ := List.exists_mem_of_ne_nil _ (hvalues rfl)
        obtain ⟨-, hmissing, -⟩ := (notIn_iff hreads).1 hselects value hvalue
        cases hmissing
      · rintro ⟨value, hvalue, hequals⟩
        exact hnone (equals_missing.1 hequals ▸ hvalue)
  | isNull => trivial
  | isNotNull => trivial
  | arrayContains =>
      intro hnull
      have hselects : listTruth (containsTruth reading _) (.list [none]) = some true :=
        (hat (.list [none])).2 (has_missing.2 hnull)
      exact ((containsTruth_iff hfirst).1 hselects).1 hnull
  | arrayContainsAny =>
      intro hnull
      have hany := (hat (.list [none])).2 ⟨.null, hnull, has_missing.2 rfl⟩
      simp only [conditionPredicate, if_neg (hvalues rfl)] at hany
      have hselects : listTruth (hasAnyTruth reading _) (.list [none]) = some true := hany
      obtain ⟨value, -, hne, hhas⟩ := (hasAnyTruth_iff hreads).1 hselects
      exact hne (has_missing.1 hhas)
  | arrayContainsAll =>
      intro hnull
      have hall := hat (.list (((given.getD []).filterMap operand).map some))
      simp only [conditionPredicate, if_neg (hvalues rfl)] at hall
      have hselects : listTruth (hasAllTruth reading (given.getD []))
          (.list (((given.getD []).filterMap operand).map some)) = some true :=
        (hasAllTruth_iff hreads).2 ⟨⟨_, rfl⟩, fun value hvalue hne => has_operands hvalue hne⟩
      obtain ⟨elements, helements, element, helement, hequals⟩ := hall.1 hselects .null hnull
      obtain rfl := Cell.list.inj helements
      obtain ⟨x, -, rfl⟩ := List.mem_map.1 helement
      obtain ⟨hmissing, -⟩ | ⟨_, hoperand, -⟩ := hequals
      · cases hmissing
      · cases hoperand

end Conditions

section Filters

variable {zone : Zone} {reading : Reading} {negatesMissing : Bool}

/-- The dates among the values of a filter are read as these moments. -/
def ReadsDates (reading : Reading) (expression : FilterExpression) : Prop :=
  ∀ c, .condition c ∈ expression.parts → ∀ value ∈ c.values.getD [], Reads reading value

/-- The members of a group that mean the same select the rows the others hold of. -/
theorem members_meanSame {members : List FilterExpression} {predicates : List Predicate}
    (h : compileFilterExpressions zone members = .ok predicates)
    (hmembers : ∀ member ∈ members, member.MeansSame zone reading negatesMissing) (row : Row) :
    (∀ member ∈ members, ∃ predicate ∈ predicates,
        (predicate.Selects reading row ↔ member.Satisfied zone reading negatesMissing row)) ∧
      ∀ predicate ∈ predicates, ∃ member ∈ members,
        (predicate.Selects reading row ↔ member.Satisfied zone reading negatesMissing row) := by
  have hall := compileFilterExpressions_ok h
  constructor
  · intro member hmember
    obtain ⟨predicate, hpredicate, hcompiles⟩ := forall₂_exists_right hall hmember
    exact ⟨predicate, hpredicate, hmembers member hmember predicate hcompiles row⟩
  · intro predicate hpredicate
    obtain ⟨member, hmember, hcompiles⟩ := forall₂_exists_right hall.flip hpredicate
    exact ⟨member, hmember, hmembers member hmember predicate hcompiles row⟩

/-- **Kept filters.**  A filter all of whose parts are kept means the same in the
statement. -/
theorem meansSame_of_kept {expression : FilterExpression}
    (hreads : ReadsDates reading expression)
    (h : ∀ part ∈ expression.parts, part.Kept zone reading negatesMissing) :
    expression.MeansSame zone reading negatesMissing := by
  induction expression using FilterExpression.induction with
  | condition c =>
      intro predicate hcompiles row
      have hself := self_mem_parts (.condition c)
      exact selects_iff_of_kept hcompiles (hreads c hself) (h _ hself) row
  | and members ih =>
      have hmembers : ∀ member ∈ members, member.MeansSame zone reading negatesMissing := by
        intro member hmember
        have hparts : ∀ part ∈ member.parts, part ∈ (FilterExpression.and members).parts :=
          fun part hpart => List.mem_cons_of_mem _ (mem_partsOf.2 ⟨member, hmember, hpart⟩)
        exact ih member hmember (fun c hc => hreads c (hparts _ hc))
          fun part hpart => h part (hparts part hpart)
      intro predicate hcompiles row
      obtain ⟨children, hchildren, rfl⟩ := compile_and_ok hcompiles
      obtain ⟨hleft, hright⟩ := members_meanSame hchildren hmembers row
      rw [selects_and, satisfied_and]
      constructor
      · intro hselects member hmember
        obtain ⟨predicate, hpredicate, hiff⟩ := hleft member hmember
        exact hiff.1 (hselects predicate hpredicate)
      · intro hsatisfied predicate hpredicate
        obtain ⟨member, hmember, hiff⟩ := hright predicate hpredicate
        exact hiff.2 (hsatisfied member hmember)
  | or members ih =>
      have hmembers : ∀ member ∈ members, member.MeansSame zone reading negatesMissing := by
        intro member hmember
        have hparts : ∀ part ∈ member.parts, part ∈ (FilterExpression.or members).parts :=
          fun part hpart => List.mem_cons_of_mem _ (mem_partsOf.2 ⟨member, hmember, hpart⟩)
        exact ih member hmember (fun c hc => hreads c (hparts _ hc))
          fun part hpart => h part (hparts part hpart)
      intro predicate hcompiles row
      obtain ⟨children, hchildren, rfl⟩ := compile_or_ok hcompiles
      obtain ⟨hleft, hright⟩ := members_meanSame hchildren hmembers row
      obtain ⟨some, hsome⟩ := List.exists_mem_of_ne_nil _ (h _ (self_mem_parts (.or members)))
      obtain ⟨child, hchild, -⟩ := hleft some hsome
      rw [selects_or (List.ne_nil_of_mem hchild), satisfied_or]
      constructor
      · rintro ⟨predicate, hpredicate, hselects⟩
        obtain ⟨member, hmember, hiff⟩ := hright predicate hpredicate
        exact ⟨member, hmember, hiff.1 hselects⟩
      · rintro ⟨member, hmember, hsatisfied⟩
        obtain ⟨predicate, hpredicate, hiff⟩ := hleft member hmember
        exact ⟨predicate, hpredicate, hiff.2 hsatisfied⟩

/-- An `or` group without members is TRUE in the text and holds of no row. -/
theorem emptyOr_compiles : compileFilterExpression zone (.or []) = .ok (.constant true) := by
  simp [compileFilterExpression, compileFilterExpressions, groupPredicate]

/-- **Only kept filters.**  A part that means the same is kept. -/
theorem kept_of_meansSame {expression : FilterExpression} {predicate : Predicate}
    (hcompiles : compileFilterExpression zone expression = .ok predicate)
    (hreads : ReadsDates reading expression)
    (h : expression.MeansSame zone reading negatesMissing) :
    expression.Kept zone reading negatesMissing := by
  cases expression with
  | condition c =>
      exact kept_of_selects_iff hcompiles (hreads c (self_mem_parts _)) (h predicate hcompiles)
  | and members => trivial
  | or members =>
      rintro rfl
      have hsatisfied := (h _ emptyOr_compiles fun _ => .scalar none).1 rfl
      obtain ⟨member, hmember, -⟩ := satisfied_or.1 hsatisfied
      cases hmember

/-- **Filter meaning.**  The texts of all parts of a filter select exactly the rows these
parts hold of iff all of them are kept: no NULL is compared with for equality or looked
for, no case is to be ignored, no `or` group is empty. -/
theorem meansSame_iff (expression : FilterExpression) (predicate : Predicate)
    (hcompiles : compileFilterExpression zone expression = .ok predicate)
    (hreads : ReadsDates reading expression) :
    (∀ part ∈ expression.parts, part.MeansSame zone reading negatesMissing) ↔
      ∀ part ∈ expression.parts, part.Kept zone reading negatesMissing := by
  have hinner : ∀ part ∈ expression.parts, ReadsDates reading part :=
    fun part hpart c hc => hreads c (parts_trans hpart hc)
  constructor
  · intro hsame part hpart
    obtain ⟨inner, hinnerCompiles⟩ := part_compiles hcompiles hpart
    exact kept_of_meansSame hinnerCompiles (hinner part hpart) (hsame part hpart)
  · intro hkept part hpart
    exact meansSame_of_kept (hinner part hpart) fun inner hmem =>
      hkept inner (parts_trans hpart hmem)

end Filters

/-- A database without timestamps whose letters are those of ASCII. -/
def asciiReading : Reading where
  timestamp := fun _ => none
  regexMatches := fun _ pattern text => pattern = text
  fold := Char.toLower

/-- The orders that are paid, or have an amount. -/
def paidOrPriced : FilterExpression :=
  .or [
    .condition { member := "orders.status", operator := .equals, values := some [.string "paid"] },
    .and [.condition { member := "orders.amount", operator := .isNotNull }]]

theorem paidOrPriced_meansSame : paidOrPriced.parts.length = 4 ∧
    ∀ part ∈ paidOrPriced.parts, part.MeansSame utc asciiReading false := by
  refine ⟨rfl, ?_⟩
  have hreads : ReadsDates asciiReading paidOrPriced := by
    intro c hc value hvalue moment hmoment
    subst hmoment
    simp only [paidOrPriced, FilterExpression.parts, FilterExpression.partsOf, List.mem_cons,
      List.mem_append, List.not_mem_nil, reduceCtorEq, FilterExpression.condition.injEq,
      or_false, false_or] at hc
    obtain rfl | rfl := hc
    · simp at hvalue
    · simp at hvalue
  refine (meansSame_iff paidOrPriced _ rfl hreads).2 ?_
  simp [paidOrPriced, FilterExpression.parts, FilterExpression.partsOf, FilterExpression.Kept,
    FilterCondition.Kept]

def statusMissing : FilterExpression :=
  .condition { member := "orders.status", operator := .equals, values := some [.null] }

/-- The orders that are paid, in any letters. -/
def paidInAnyCase : FilterExpression :=
  .condition
    { member := "orders.status"
      operator := .contains
      values := some [.string "paid"]
      caseInsensitive := true }

/-- **Three filters that change their meaning.**  An empty `or` group selects a row
although none of its members holds; equality with NULL selects no row; a text is not found
in other letters although the case is to be ignored. -/
theorem not_meansSame :
    ((Predicate.constant true).Selects asciiReading (fun _ => .scalar none) ∧
      compileFilterExpression utc (.or []) = .ok (.constant true) ∧
      ¬ (FilterExpression.or []).Satisfied utc asciiReading false fun _ => .scalar none) ∧
    ¬ statusMissing.MeansSame utc asciiReading false ∧
    ¬ paidInAnyCase.MeansSame utc asciiReading false := by
  refine ⟨⟨rfl, emptyOr_compiles, ?_⟩, ?_, ?_⟩
  · intro hsatisfied
    obtain ⟨member, hmember, -⟩ := satisfied_or.1 hsatisfied
    cases hmember
  · intro hsame
    have hholds := (hsame _ rfl fun _ => .scalar none).2 (.inl ⟨rfl, rfl⟩)
    cases hholds
  · intro hsame
    have hholds : paidInAnyCase.Satisfied utc asciiReading false
        fun _ => .scalar (some (.text "PAID")) :=
      ⟨"paid".toList, "PAID".toList, rfl, rfl, List.infix_refl _⟩
    have hselects := (hsame _ rfl _).2 hholds
    exact absurd hselects (by decide)

end QueryEngine

end Zentra
