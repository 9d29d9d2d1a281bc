import Mathlib.Algebra.Order.BigOperators.Group.List
import Mathlib.Algebra.Order.Group.Nat
import Zentra.SqlShape

/-!
# Strings and tokens

Whether what a string contains can change the tokens of the statement: two queries of one
shape that compile have texts with the same tokens, unless a date range is given by its
bounds, which are put between quotes as they are.

* `strings_sql_lt` — a quote there makes for more string literals;
* `tokens_fixed_iff` — the strings of a query cannot change its tokens iff it has no such
  range.
-/

open SqlText SqlLogic JsDate

namespace Zentra

namespace QueryEngine

def DateRangeSpec.withFrom (text : String) : DateRangeSpec → DateRangeSpec
  | absolute _ _ => absolute text ""
  | tuple _ _ => tuple text ""
  | range => range

def TimeDimensionSpec.withFrom (text : String) (timeDim : TimeDimensionSpec) :
    TimeDimensionSpec where
  dimension := timeDim.dimension
  granularity := timeDim.granularity
  dateRange := timeDim.dateRange.map (DateRangeSpec.withFrom text)

/-- The query whose date ranges that are given by their bounds start with another text and
end with none. -/
def Query.withFrom (text : String) (query : Query) : Query :=
  { query with timeDimensions := query.timeDimensions.map (TimeDimensionSpec.withFrom text) }

theorem shape_withFrom (text : String) (query : Query) :
    (query.withFrom text).shape = query.shape := by
  have hrange : ∀ range : DateRangeSpec, (range.withFrom text).shape = range.shape := by
    intro range
    cases range <;> rfl
  have htimeDim : ∀ timeDim : TimeDimensionSpec,
      (timeDim.withFrom text).shape = timeDim.shape := by
    intro timeDim
    have hranges : DateRangeSpec.shape ∘ DateRangeSpec.withFrom text = DateRangeSpec.shape :=
      funext hrange
    simp [TimeDimensionSpec.withFrom, TimeDimensionSpec.shape, hranges]
  simp [Query.withFrom, Query.shape, htimeDim]

section Withs

variable {zone : Zone} {now : Int} {query : Query} {override : Option String} (text : String)

theorem primaryTable_withFrom :
    (query.withFrom text).primaryTable override = query.primaryTable override := by
  have hdimension : TimeDimensionSpec.dimension ∘ TimeDimensionSpec.withFrom text =
      TimeDimensionSpec.dimension := rfl
  simp [Query.primaryTable, Query.withFrom, hdimension]

theorem compileInternal_withFrom {result : CompilationResult}
    (h : compileInternal zone now query override = .ok result) :
    ∃ other, compileInternal zone now (query.withFrom text) override = .ok other := by
  unfold compileInternal at h ⊢
  rw [primaryTable_withFrom]
  cases hprimary : query.primaryTable override with
  | none => simp [hprimary] at h
  | some table =>
      by_cases hempty : table = ""
      · simp [hprimary, hempty] at h
      · cases hmeasures : compileMeasures zone query.measures with
        | error error => simp [hprimary, hempty, hmeasures] at h
        | ok measures =>
            cases hfilters : compileFilterExpressions zone query.filters with
            | error error => simp [hprimary, hempty, hmeasures, hfilters] at h
            | ok filters =>
                have hsame : (query.withFrom text).measures = query.measures ∧
                    (query.withFrom text).filters = query.filters := ⟨rfl, rfl⟩
                simp [hempty, hsame, hmeasures, hfilters]

theorem timeSelects_withFrom (timeDimensions : List TimeDimensionSpec) :
    timeSelects (timeDimensions.map (TimeDimensionSpec.withFrom text)) =
      timeSelects timeDimensions := by
  rw [timeSelects, List.filterMap_map]
  rfl

theorem groupItems_withFrom : groupItems (query.withFrom text) = groupItems query := by
  unfold groupItems
  simp only [Query.withFrom, List.filterMap_map]
  rfl

theorem before_withFrom (table : String) (measures : List SelectItem)
    (filters : List Predicate) :
    (assemble zone now (query.withFrom text) table measures filters).before =
      (assemble zone now query table measures filters).before := by
  simp only [Statement.before, assemble, selectItems, Query.withFrom, timeSelects_withFrom]

theorem after_withFrom (table : String) (measures : List SelectItem)
    (filters : List Predicate) :
    (assemble zone now (query.withFrom text) table measures filters).after =
      (assemble zone now query table measures filters).after := by
  simp only [Statement.after, assemble, groupItems_withFrom]
  rfl

theorem whereItems_withFrom (table : String) (measures : List SelectItem)
    (filters : List Predicate) :
    (assemble zone now (query.withFrom text) table measures filters).whereItems =
      filters.map .filter ++
        timeRanges zone now (query.timeDimensions.map (TimeDimensionSpec.withFrom text)) := rfl

end Withs

section Counting

variable {zone : Zone} {now : Int}

/-- A text without quotes has one literal between quotes, and a quoted blank has two. -/
theorem strings_bounds : strings (quotedBound "") = 1 ∧ strings (quotedBound "' '") = 2 := by
  decide

/-- The two texts that the ranges are given: both leave no literal open. -/
def Bound (text : String) : Prop := text = "" ∨ text = "' '"

theorem Bound.alike {text : String} (h : Bound text) :
    Alike (quotedBound text) (quotedBound text) := by
  obtain rfl | rfl := h
  · decide
  · decide

theorem strings_dateRange {bounds : DateBounds}
    (hfrom : Alike (quotedBound bounds.dateFrom) (quotedBound bounds.dateFrom))
    (member : String) :
    strings (WhereItem.dateRange member bounds).text =
      strings (quoteMemberRef member) + strings (quotedBound bounds.dateFrom) +
        strings (quotedBound bounds.dateTo) := by
  have hmember := (alike_member member).left
  rw [dateRange_text, strings_append (hmember.append (by decide) hfrom) (by decide),
    strings_append hmember (by decide)]

/-- The literals of the range of a time dimension. -/
def rangeStrings (zone : Zone) (now : Int) (timeDim : TimeDimensionSpec) : Nat :=
  match timeDim.dateRange with
  | none => 0
  | some range =>
      strings (WhereItem.dateRange timeDim.dimension (resolveDateRange zone now range)).text

theorem sum_timeRanges (timeDimensions : List TimeDimensionSpec) :
    (((timeRanges zone now timeDimensions).map WhereItem.text).map strings).sum =
      (timeDimensions.map (rangeStrings zone now)).sum := by
  induction timeDimensions with
  | nil => rfl
  | cons timeDim rest ih =>
      cases hrange : timeDim.dateRange with
      | none => simpa [timeRanges, rangeStrings, hrange] using ih
      | some range => simpa [timeRanges, rangeStrings, hrange] using ih

theorem resolve_withFrom {text : String} {range : DateRangeSpec} (zone : Zone) (now : Int)
    (h : range.Verbatim) : resolveDateRange zone now (range.withFrom text) = ⟨text, ""⟩ := by
  cases range with
  | preset preset => cases h
  | relative value unit => cases h
  | absolute dateFrom dateTo => rfl
  | tuple dateFrom dateTo => rfl

theorem withFrom_range_fixed {text : String} {range : DateRangeSpec} (h : ¬ range.Verbatim) :
    range.withFrom text = range := by
  cases range with
  | preset preset => rfl
  | relative value unit => rfl
  | absolute dateFrom dateTo => exact absurd trivial h
  | tuple dateFrom dateTo => exact absurd trivial h

theorem rangeStrings_bound {timeDim : TimeDimensionSpec} (h : timeDim.Verbatim) {text : String}
    (htext : Bound text) :
    rangeStrings zone now (timeDim.withFrom text) =
      strings (quoteMemberRef timeDim.dimension) + strings (quotedBound text) +
        strings (quotedBound "") := by
  obtain ⟨range, hrange, hverbatim⟩ := h
  have hresolve := @resolve_withFrom text range zone now hverbatim
  have hstrings := @strings_dateRange ⟨text, ""⟩ htext.alike timeDim.dimension
  simp only [rangeStrings, TimeDimensionSpec.withFrom, hrange, Option.map_some, hresolve]
  exact hstrings

/-- A range that is given by its bounds has one literal more. -/
theorem rangeStrings_verbatim {timeDim : TimeDimensionSpec} (h : timeDim.Verbatim) :
    rangeStrings zone now (timeDim.withFrom "' '") =
      rangeStrings zone now (timeDim.withFrom "") + 1 := by
  rw [rangeStrings_bound h (.inr rfl), rangeStrings_bound h (.inl rfl), strings_bounds.1,
    strings_bounds.2]

theorem withFrom_fixed {timeDim : TimeDimensionSpec} (h : ¬ timeDim.Verbatim) (text : String) :
    timeDim.withFrom text = timeDim := by
  obtain ⟨dimension, granularity, dateRange⟩ := timeDim
  cases dateRange with
  | none => rfl
  | some range =>
      have hfixed : ¬ range.Verbatim := fun hverbatim => h ⟨range, rfl, hverbatim⟩
      simp only [TimeDimensionSpec.withFrom, Option.map_some, withFrom_range_fixed hfixed]

theorem rangeStrings_le (timeDim : TimeDimensionSpec) :
    rangeStrings zone now (timeDim.withFrom "") ≤
      rangeStrings zone now (timeDim.withFrom "' '") := by
  by_cases h : timeDim.Verbatim
  · rw [rangeStrings_verbatim h]
    exact Nat.le_succ _
  · rw [withFrom_fixed h, withFrom_fixed h]

theorem sum_rangeStrings_lt {timeDimensions : List TimeDimensionSpec}
    {timeDim : TimeDimensionSpec} (hmem : timeDim ∈ timeDimensions) (h : timeDim.Verbatim) :
    (timeDimensions.map fun timeDim => rangeStrings zone now (timeDim.withFrom "")).sum <
      (timeDimensions.map fun timeDim => rangeStrings zone now (timeDim.withFrom "' '")).sum := by
  refine List.sum_lt_sum _ _ (fun other _ => rangeStrings_le other) ⟨timeDim, hmem, ?_⟩
  rw [rangeStrings_verbatim h]
  exact Nat.lt_succ_self _

end Counting

section Totals

variable {zone : Zone} {now : Int}

theorem closed_of_forall₂ {as bs : List String} (h : List.Forall₂ Alike as bs) :
    ∀ a ∈ as, Alike a a := by
  intro a ha
  obtain ⟨b, -, hab⟩ := forall₂_exists_right h ha
  exact hab.left

theorem sum_clause {keyword separator : String} {parts : List String}
    (hkeyword : Plain keyword.toList) (hseparator : Separator separator)
    (h : ∀ part ∈ parts, Alike part part) :
    ((clause keyword separator parts).map strings).sum = (parts.map strings).sum := by
  cases parts with
  | nil => rfl
  | cons part rest =>
      have hjoined := strings_intercalate h hseparator
      simp only [clause, reduceCtorEq, if_false, List.map_cons, List.map_nil, List.sum_cons,
        List.sum_nil, strings_preceded hkeyword, hjoined, Nat.add_zero]

theorem plain_where : Plain "WHERE ".toList := by decide

theorem separator_and : Separator " AND " := by decide

theorem strings_sql {statement : Statement} (hbefore : ∀ a ∈ statement.before, Alike a a)
    (hwhere : ∀ a ∈ statement.whereItems.map WhereItem.text, Alike a a)
    (hafter : ∀ a ∈ statement.after, Alike a a) :
    strings statement.sql = (statement.before.map strings).sum +
      (((statement.whereItems.map WhereItem.text).map strings).sum +
        (statement.after.map strings).sum) := by
  have hclause := closed_of_forall₂ (alike_clause plain_where separator_and
    (List.forall₂_same.2 hwhere))
  have hall : ∀ a ∈ statement.clauses, Alike a a := by
    intro a ha
    rw [clauses_eq, List.mem_append, List.mem_append] at ha
    obtain ha | ha | ha := ha
    · exact hbefore a ha
    · exact hclause a ha
    · exact hafter a ha
  unfold Statement.sql
  rw [strings_intercalate hall (by decide), clauses_eq, List.map_append, List.map_append,
    List.sum_append, List.sum_append, sum_clause plain_where separator_and hwhere]

theorem closed_timeRanges {text : String} (htext : Bound text)
    (timeDimensions : List TimeDimensionSpec) :
    ∀ a ∈ (timeRanges zone now
        (timeDimensions.map (TimeDimensionSpec.withFrom text))).map WhereItem.text,
      Alike a a := by
  intro a ha
  obtain ⟨item, hitem, rfl⟩ := List.mem_map.1 ha
  obtain ⟨timeDim, htimeDim, hpicked⟩ := List.mem_filterMap.1 hitem
  obtain ⟨original, -, rfl⟩ := List.mem_map.1 htimeDim
  obtain ⟨range, hrange, rfl⟩ := Option.map_eq_some_iff.1 hpicked
  obtain ⟨given, -, rfl⟩ := Option.map_eq_some_iff.1 hrange
  generalize (original.withFrom text).dimension = member
  by_cases hverbatim : given.Verbatim
  · have hempty : Alike (quotedBound "") (quotedBound "") := Bound.alike (.inl rfl)
    rw [resolve_withFrom zone now hverbatim]
    exact (@alike_dateRange ⟨text, ""⟩ htext.alike hempty member).left
  · obtain ⟨hfrom, hto⟩ := plain_resolveDateRange zone now hverbatim
    rw [withFrom_range_fixed hverbatim]
    exact (alike_dateRange (alike_between hfrom) (alike_between hto) member).left

/-- **A quote in a bound.**  It makes for more string literals in the text. -/
theorem strings_sql_lt {query : Query} {timeDim : TimeDimensionSpec}
    (hmem : timeDim ∈ query.timeDimensions) (hverbatim : timeDim.Verbatim)
    {measures others : List SelectItem} {filters otherFilters : List Predicate}
    (hmeasures : List.Forall₂ SelectItem.AlikeTo measures others)
    (hfilters : List.Forall₂ Predicate.AlikeTo filters otherFilters) (table : String) :
    strings (assemble zone now (query.withFrom "") table measures filters).sql <
      strings (assemble zone now (query.withFrom "' '") table measures filters).sql := by
  have hcount : ∀ text, Bound text →
      strings (assemble zone now (query.withFrom text) table measures filters).sql =
        ((assemble zone now query table measures filters).before.map strings).sum +
        ((((filters.map WhereItem.filter).map WhereItem.text).map strings).sum +
          (query.timeDimensions.map fun timeDim =>
            rangeStrings zone now (timeDim.withFrom text)).sum +
        ((assemble zone now query table measures filters).after.map strings).sum) := by
    intro text htext
    have hwhere : ∀ a ∈ (assemble zone now (query.withFrom text) table measures
        filters).whereItems.map WhereItem.text, Alike a a := by
      intro a ha
      simp only [assemble, List.map_append, List.mem_append] at ha
      obtain ha | ha := ha
      · exact closed_of_forall₂ (alike_filterItems hfilters) a ha
      · exact closed_timeRanges htext query.timeDimensions a ha
    have hbefore := closed_of_forall₂
      (alike_before zone now query hmeasures table table filters otherFilters)
    have hafter := closed_of_forall₂
      (alike_after zone now query measures others table table filters otherFilters)
    rw [strings_sql (by rwa [before_withFrom]) hwhere (by rwa [after_withFrom]),
      before_withFrom, after_withFrom]
    have hranges := @sum_timeRanges zone now
      (query.timeDimensions.map (TimeDimensionSpec.withFrom text))
    rw [List.map_map (l := query.timeDimensions)] at hranges
    rw [whereItems_withFrom, List.map_append, List.map_append, List.sum_append, hranges]
    rfl
  have hlt := @sum_rangeStrings_lt zone now _ _ hmem hverbatim
  rw [hcount "" (.inl rfl), hcount "' '" (.inr rfl)]
  omega

end Totals

section Law

variable {zone : Zone} {now : Int}

theorem verbatim_shape {timeDim : TimeDimensionSpec} :
    timeDim.shape.Verbatim ↔ timeDim.Verbatim := by
  have hrange : ∀ range : DateRangeSpec, range.shape.Verbatim ↔ range.Verbatim := by
    intro range
    cases range <;> exact Iff.rfl
  constructor
  · rintro ⟨range, hshape, hverbatim⟩
    obtain ⟨original, horiginal, rfl⟩ := Option.map_eq_some_iff.1 hshape
    exact ⟨original, horiginal, (hrange original).1 hverbatim⟩
  · rintro ⟨range, hdateRange, hverbatim⟩
    refine ⟨range.shape, ?_, (hrange range).2 hverbatim⟩
    simp [TimeDimensionSpec.shape, hdateRange]

theorem not_verbatim_of_shape {query other : Query} (hshape : other.shape = query.shape)
    (h : ∀ timeDim ∈ query.timeDimensions, ¬ timeDim.Verbatim) :
    ∀ timeDim ∈ other.timeDimensions, ¬ timeDim.Verbatim := by
  intro timeDim hmem hverbatim
  have hshaped : timeDim.shape ∈ other.shape.timeDimensions := List.mem_map_of_mem hmem
  rw [hshape] at hshaped
  obtain ⟨original, horiginal, heq⟩ := List.mem_map.1 hshaped
  refine h original horiginal (verbatim_shape.1 ?_)
  rw [heq]
  exact verbatim_shape.2 hverbatim

theorem statement_withFrom {query : Query} {override : Option String} {text : String}
    {result other : CompilationResult} {measures : List SelectItem} {filters : List Predicate}
    (h : compileInternal zone now query override = .ok result)
    (hmeasures : compileMeasures zone query.measures = .ok measures)
    (hfilters : compileFilterExpressions zone query.filters = .ok filters)
    (hother : compileInternal zone now (query.withFrom text) override = .ok other) :
    other.statement =
      assemble zone now (query.withFrom text) result.statement.fromTable measures filters := by
  obtain ⟨_, _, htable, -, -, -⟩ := compileInternal_ok h
  obtain ⟨measures', filters', htable', hmeasures', hfilters', hstatement⟩ :=
    compileInternal_ok hother
  have hsameMeasures : compileMeasures zone query.measures = .ok measures' := hmeasures'
  have hsameFilters : compileFilterExpressions zone query.filters = .ok filters' := hfilters'
  rw [primaryTable_withFrom, htable] at htable'
  obtain rfl := Except.ok.inj (hmeasures.symm.trans hsameMeasures)
  obtain rfl := Except.ok.inj (hfilters.symm.trans hsameFilters)
  rw [Option.some.inj htable']
  exact hstatement

theorem statement_shape {query : Query} {override : Option String} {result : CompilationResult}
    (h : compileInternal zone now query override = .ok result) :
    ∃ measures filters others otherFilters,
      result.statement =
        assemble zone now query result.statement.fromTable measures filters ∧
      compileMeasures zone query.measures = .ok measures ∧
      compileFilterExpressions zone query.filters = .ok filters ∧
      compileMeasures zone query.shape.measures = .ok others ∧
      compileFilterExpressions zone query.shape.filters = .ok otherFilters ∧
      List.Forall₂ SelectItem.AlikeTo measures others ∧
      List.Forall₂ Predicate.AlikeTo filters otherFilters := by
  obtain ⟨measures, filters, -, hmeasures, hfilters, hstatement⟩ := compileInternal_ok h
  obtain ⟨others, hothers, hmeasuresAlike⟩ := compileMeasures_shape hmeasures
  obtain ⟨otherFilters, hotherFilters, hfiltersAlike⟩ := compileFilterExpressions_shape
    (fun member _ => compileFilterExpression_shape member) hfilters
  exact ⟨measures, filters, others, otherFilters, hstatement, hmeasures, hfilters, hothers,
    hotherFilters, hmeasuresAlike, hfiltersAlike⟩

theorem tokens_eq_of_shape {query other : Query} {override override' : Option String}
    {result result' : CompilationResult}
    (h : compileInternal zone now query override = .ok result)
    (h' : compileInternal zone now other override' = .ok result')
    (hshape : other.shape = query.shape)
    (hverbatim : ∀ timeDim ∈ query.timeDimensions, ¬ timeDim.Verbatim) :
    tokens result'.statement.sql = tokens result.statement.sql := by
  have hverbatim' := not_verbatim_of_shape hshape hverbatim
  obtain ⟨measures, filters, others, otherFilters, hstatement, -, -, hothers, hotherFilters,
    hmeasures, hfilters⟩ := statement_shape h
  obtain ⟨measures', filters', others', otherFilters', hstatement', -, -, hothers',
    hotherFilters', hmeasures', hfilters'⟩ := statement_shape h'
  rw [hshape, hothers] at hothers'
  rw [hshape, hotherFilters] at hotherFilters'
  obtain rfl := Except.ok.inj hothers'
  obtain rfl := Except.ok.inj hotherFilters'
  have hleft := alike_sql zone now hverbatim hmeasures hfilters
    result.statement.fromTable ""
  have hright := alike_sql zone now hverbatim' hmeasures' hfilters'
    result'.statement.fromTable ""
  rw [hshape] at hright
  rw [hstatement, hstatement']
  exact (hright.trans hleft.symm).tokens_eq

/-- **Injection.**  For a query that compiles: whatever the strings of a query of its
shape contain, the tokens of the text are the same, iff no time dimension has a date range
that is given by its bounds. -/
theorem tokens_fixed_iff (query : Query) (override : Option String) (result : CompilationResult)
    (h : compileInternal zone now query override = .ok result) :
    (∀ other override' result', other.shape = query.shape →
        override'.isSome = override.isSome →
        compileInternal zone now other override' = .ok result' →
        tokens result'.statement.sql = tokens result.statement.sql) ↔
      ∀ timeDim ∈ query.timeDimensions, ¬ timeDim.Verbatim := by
  constructor
  · intro hsame timeDim hmem hverbatim
    have hfixed : ∀ text, ∃ other, compileInternal zone now (query.withFrom text) override =
          .ok other ∧ tokens other.statement.sql = tokens result.statement.sql := by
      intro text
      obtain ⟨other, hother⟩ := compileInternal_withFrom text h
      exact ⟨other, hother, hsame _ _ other (shape_withFrom text query) rfl hother⟩
    obtain ⟨none, hnone, htokensNone⟩ := hfixed ""
    obtain ⟨blank, hblank, htokensBlank⟩ := hfixed "' '"
    have hstrings : strings none.statement.sql = strings blank.statement.sql := by
      rw [← strings_tokens, ← strings_tokens, htokensNone, htokensBlank]
    obtain ⟨measures, filters, _, _, -, hmeasures, hfilters, -, -, hmeasuresAlike,
      hfiltersAlike⟩ := statement_shape h
    rw [statement_withFrom h hmeasures hfilters hnone,
      statement_withFrom h hmeasures hfilters hblank] at hstrings
    have hlt := @strings_sql_lt zone now _ _ hmem hverbatim _ _ _ _ hmeasuresAlike hfiltersAlike
      result.statement.fromTable
    exact absurd hstrings hlt.ne
  · intro hverbatim other override' result' hshape _ hother
    exact tokens_eq_of_shape h hother hshape hverbatim

end Law

def ordersToday (customer : String) : Query where
  dimensions := [{ member := "orders.status" }]
  filters := [.condition { member := "orders.customer", operator := .equals,
                           values := some [.string customer] }]
  timeDimensions := [{ dimension := "orders.created_at", dateRange := some (.preset .today) }]

theorem ordersToday_tokens_fixed :
    ∃ result, compileInternal utc 0 (ordersToday "O'Brien") none = .ok result ∧
      ∀ other override' result', other.shape = (ordersToday "O'Brien").shape →
        override'.isSome = (none : Option String).isSome →
        compileInternal utc 0 other override' = .ok result' →
        tokens result'.statement.sql = tokens result.statement.sql := by
  refine ⟨_, rfl, (tokens_fixed_iff (ordersToday "O'Brien") none _ rfl).2 ?_⟩
  intro timeDim hmem hverbatim
  obtain rfl := List.mem_singleton.1 hmem
  obtain ⟨range, hrange, hrangeVerbatim⟩ := hverbatim
  obtain rfl := Option.some.inj hrange
  exact hrangeVerbatim

def ordersFrom (day : String) : Query where
  dimensions := [{ member := "orders.status" }]
  timeDimensions :=
    [{ dimension := "orders.created_at", dateRange := some (.absolute day "2024-12-31") }]

/-- **A bound that ends its literal.**  The second query differs from the first in the
text of a bound, and its statement has more tokens. -/
theorem not_tokens_fixed :
    ∃ result other, compileInternal utc 0 (ordersFrom "2024-01-01") none = .ok result ∧
      compileInternal utc 0 (ordersFrom "2024-01-01' OR '1' = '1") none = .ok other ∧
      (ordersFrom "2024-01-01' OR '1' = '1").shape = (ordersFrom "2024-01-01").shape ∧
      tokens other.statement.sql ≠ tokens result.statement.sql := by
  refine ⟨_, _, rfl, rfl, rfl, ?_⟩
  intro htokens
  have hcount := congrArg (List.count .string) htokens
  rw [strings_tokens, strings_tokens] at hcount
  exact absurd hcount (by decide +kernel)

end QueryEngine

end Zentra
