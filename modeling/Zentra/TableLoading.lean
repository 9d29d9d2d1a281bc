import Zentra.SqlCompiler

/-!
# The tables of a query

Before a query runs in the browser's database its tables are loaded.  Which ones is read
off the query by the table extractor; the statement is compiled from the same query on
its own.

* `Statement.tables` — the tables that a statement names;
* `loads_iff` — when every one of them is extracted, and the primary table is the same.
-/

namespace Zentra

namespace QueryEngine

mutual

/-- The members of a filter, from left to right. -/
def FilterExpression.members : FilterExpression → List String
  | .condition c => [c.member]
  | .and members => FilterExpression.membersOf members
  | .or members => FilterExpression.membersOf members

/-- The members of the filters of a group. -/
def FilterExpression.membersOf : List FilterExpression → List String
  | [] => []
  | expression :: rest => expression.members ++ FilterExpression.membersOf rest

end

def extractFromDimensions (dimensions : List DimensionSpec) : List String :=
  (dimensions.map DimensionSpec.member).filterMap tableOf

/-- The members of a measure: its own, and that of its filter. -/
def MeasureSpec.members (measure : MeasureSpec) : List String :=
  measure.member :: (measure.filter.map FilterCondition.member).toList

def extractFromMeasures (measures : List MeasureSpec) : List String :=
  (measures.flatMap MeasureSpec.members).filterMap tableOf

def extractFromFilters (filters : List FilterExpression) : List String :=
  (FilterExpression.membersOf filters).filterMap tableOf

/-- The members of a join: its sides, and those of its additional conditions. -/
def JoinSpec.members (join : JoinSpec) : List String :=
  join.left :: join.right ::
    (join.additionalConditions.getD []).flatMap fun condition => [condition.left, condition.right]

def extractFromJoins (joins : List JoinSpec) : List String :=
  (joins.flatMap JoinSpec.members).filterMap tableOf

def extractFromOrderBy (orderBy : List OrderBySpec) : List String :=
  (orderBy.map OrderBySpec.member).filterMap tableOf

/-- `deduplicatePreserveOrder`, with the items that have been seen. -/
def deduplicatePreserveOrder : List String → List String → List String
  | [], _ => []
  | item :: rest, seen =>
      if item ∈ seen then deduplicatePreserveOrder rest seen
      else item :: deduplicatePreserveOrder rest (item :: seen)

/-- `TableExtractionResult`: what its callers read of it. -/
structure TableExtractionResult where
  tables : List String
  primaryTable : Option String
  deriving DecidableEq, Repr

def extractDetailed (query : Query) : TableExtractionResult :=
  let allTables := extractFromDimensions query.dimensions ++
    extractFromMeasures query.measures ++ extractFromFilters query.filters ++
    extractFromJoins query.joins ++ extractFromOrderBy query.orderBy
  let uniqueTables := deduplicatePreserveOrder allTables []
  { tables := uniqueTables
    primaryTable := uniqueTables.head? }

def extract (query : Query) : List String := (extractDetailed query).tables

/-- `DecisionTableConfig`: what the rules read of it. -/
structure DecisionTableConfig where
  isLocal : Bool
  hasListApi : Bool
  hasGetApi : Bool
  eventual : Bool
  deriving DecidableEq, Repr

/-- `DecisionContext`, with the option `preferAnalytics`. -/
structure DecisionContext where
  tables : List String
  isMutation : Bool
  wantsGet : Bool
  tableConfigs : String → Option DecisionTableConfig
  preferAnalytics : Bool

/-- `DecisionResult` of the default rules: the API, or the browser's database with the
reason and the tables to load. -/
inductive DecisionResult
  | api
  | duckdb (localTable : Bool) (tablesToLoad : List String)
  deriving DecidableEq, Repr

/-- The configuration of the first table. -/
def DecisionContext.primaryConfig (context : DecisionContext) : Option DecisionTableConfig :=
  context.tables.head?.bind context.tableConfigs

/-- `decide`: the default rules, of which the first that matches decides. -/
def decide (query : Query) (context : DecisionContext) : DecisionResult :=
  let primary := context.primaryConfig
  let isLocal config := Option.any DecisionTableConfig.isLocal config
  let hasListApi := primary.any DecisionTableConfig.hasListApi
  let hasGetApi := primary.any DecisionTableConfig.hasGetApi
  if context.isMutation then .api
  else if query.joins ≠ [] then .duckdb false context.tables
  else if query.measures ≠ [] then .duckdb false context.tables
  else if 1 < context.tables.length then .duckdb false context.tables
  else if (context.tables.any fun table => isLocal (context.tableConfigs table)) ∨
      isLocal primary then .duckdb true []
  else if ¬ hasListApi ∧ (¬ context.wantsGet ∨ ¬ hasGetApi) then
    .duckdb false context.tables.head?.toList
  else if context.preferAnalytics ∧ primary.any DecisionTableConfig.eventual then
    .duckdb false context.tables.head?.toList
  else .api

/-- Unless the table is local, a decision for the browser's database loads all the
tables of the context. -/
theorem tablesToLoad_eq {query : Query} {context : DecisionContext} {tablesToLoad : List String}
    (h : decide query context = .duckdb false tablesToLoad) : tablesToLoad = context.tables := by
  have hone : ¬ 1 < context.tables.length → context.tables.head?.toList = context.tables := by
    intro hlength
    match htables : context.tables with
    | [] => rfl
    | [table] => rfl
    | first :: second :: rest =>
        rw [htables] at hlength
        exact absurd (Nat.succ_lt_succ (Nat.succ_pos _)) hlength
  unfold decide at h
  simp only at h
  split at h
  · cases h
  · split at h
    · cases h
      rfl
    · split at h
      · cases h
        rfl
      · split at h
        · cases h
          rfl
        · next hlength =>
            split at h
            · cases h
            · split at h
              · cases h
                exact hone hlength
              · split at h
                · cases h
                  exact hone hlength
                · cases h

mutual

/-- The members that a condition names. -/
def Predicate.members : Predicate → List String
  | .compare _ member _ => [member]
  | .between member _ _ => [member]
  | .isIn _ member _ => [member]
  | .like _ member _ _ => [member]
  | .matchesRegex member _ => [member]
  | .isNull _ member => [member]
  | .listContains member _ => [member]
  | .listHasAny member _ => [member]
  | .listHasAll member _ => [member]
  | .constant _ => []
  | .and members => Predicate.membersOf members
  | .or members => Predicate.membersOf members

/-- The members that the conditions of a group name. -/
def Predicate.membersOf : List Predicate → List String
  | [] => []
  | p :: ps => p.members ++ Predicate.membersOf ps

end

def SelectItem.tables : SelectItem → List String
  | dimension member _ => (tableOf member).toList
  | time _ member _ => (tableOf member).toList
  | measure _ _ filter member _ =>
      (member :: (filter.map Predicate.members).getD []).filterMap tableOf
  | allOf table => [table]

def JoinClause.tables (join : JoinClause) : List String :=
  join.table :: (join.left :: join.right ::
    (join.additionalConditions.getD []).flatMap fun condition =>
      [condition.left, condition.right]).filterMap tableOf

def WhereItem.tables : WhereItem → List String
  | filter predicate => predicate.members.filterMap tableOf
  | dateRange member _ => (tableOf member).toList

def GroupItem.tables : GroupItem → List String
  | column member => (tableOf member).toList
  | time _ member => (tableOf member).toList

/-- The tables that a statement names, in its clauses and in its columns. -/
def Statement.tables (statement : Statement) : List String :=
  statement.fromTable ::
    (statement.selectItems.flatMap SelectItem.tables ++
      statement.joins.flatMap JoinClause.tables ++
      statement.whereItems.flatMap WhereItem.tables ++
      statement.groupItems.flatMap GroupItem.tables ++
      statement.orderBy.flatMap fun spec => (tableOf spec.member).toList)

theorem members_conditionPredicate (zone : JsDate.Zone) (condition : FilterCondition)
    (values : List FilterValue) {member : String}
    (h : member ∈ (conditionPredicate zone condition values).members) :
    member = condition.member := by
  unfold conditionPredicate at h
  split at h
  all_goals first
    | exact List.mem_singleton.1 h
    | (split at h
       · exact absurd h List.not_mem_nil
       · exact List.mem_singleton.1 h)

theorem members_compileFilterCondition {zone : JsDate.Zone} {condition : FilterCondition}
    {predicate : Predicate} (h : compileFilterCondition zone condition = .ok predicate)
    {member : String} (hmember : member ∈ predicate.members) : member = condition.member := by
  unfold compileFilterCondition at h
  simp only at h
  split at h
  · cases h
  · cases h
    exact members_conditionPredicate zone condition _ hmember

theorem members_groupPredicate {group : List Predicate → Predicate}
    (hgroup : ∀ children, (group children).members = Predicate.membersOf children)
    {children : List Predicate} {member : String}
    (h : member ∈ (groupPredicate group children).members) :
    member ∈ Predicate.membersOf children := by
  match children with
  | [] => exact absurd h List.not_mem_nil
  | [child] => simpa [groupPredicate, Predicate.membersOf] using h
  | first :: second :: rest => simpa [groupPredicate, hgroup] using h

mutual

theorem members_compileFilterExpression {zone : JsDate.Zone} :
    ∀ (expression : FilterExpression) {predicate : Predicate},
      compileFilterExpression zone expression = .ok predicate →
      ∀ {member : String}, member ∈ predicate.members → member ∈ expression.members
  | .condition condition, predicate, h, member, hmember => by
      rw [compileFilterExpression] at h
      exact List.mem_singleton.2 (members_compileFilterCondition h hmember)
  | .and members, predicate, h, member, hmember => by
      rw [compileFilterExpression] at h
      split at h
      · cases h
      · next children hchildren =>
          cases h
          have hchild := members_groupPredicate (fun _ => by rw [Predicate.members]) hmember
          exact members_compileFilterExpressions members hchildren hchild
  | .or members, predicate, h, member, hmember => by
      rw [compileFilterExpression] at h
      split at h
      · cases h
      · next children hchildren =>
          cases h
          have hchild := members_groupPredicate (fun _ => by rw [Predicate.members]) hmember
          exact members_compileFilterExpressions members hchildren hchild

theorem members_compileFilterExpressions {zone : JsDate.Zone} :
    ∀ (expressions : List FilterExpression) {predicates : List Predicate},
      compileFilterExpressions zone expressions = .ok predicates →
      ∀ {member : String}, member ∈ Predicate.membersOf predicates →
        member ∈ FilterExpression.membersOf expressions
  | [], predicates, h, member, hmember => by
      cases h
      exact absurd hmember List.not_mem_nil
  | expression :: rest, predicates, h, member, hmember => by
      rw [compileFilterExpressions] at h
      split at h
      · cases h
      · next child hchild =>
          split at h
          · cases h
          · next children hchildren =>
              cases h
              obtain hmember | hmember := List.mem_append.1 hmember
              · exact List.mem_append_left _
                  (members_compileFilterExpression expression hchild hmember)
              · exact List.mem_append_right _
                  (members_compileFilterExpressions rest hchildren hmember)

end

/-- The members of a query outside of its time dimensions, clause by clause. -/
def Query.namedMembers (query : Query) : List String :=
  query.dimensions.map DimensionSpec.member ++ query.measures.flatMap MeasureSpec.members ++
    FilterExpression.membersOf query.filters ++ query.joins.flatMap JoinSpec.members ++
    query.orderBy.map OrderBySpec.member

/-- One of the members names the table. -/
def Names (members : List String) (table : String) : Prop :=
  ∃ member ∈ members, tableOf member = some table

theorem mem_deduplicate {items seen : List String} {table : String} :
    table ∈ deduplicatePreserveOrder items seen ↔ table ∈ items ∧ table ∉ seen := by
  induction items generalizing seen with
  | nil => simp [deduplicatePreserveOrder]
  | cons item rest ih =>
      by_cases hseen : item ∈ seen
      · rw [deduplicatePreserveOrder, if_pos hseen, ih, List.mem_cons]
        constructor
        · exact fun h => ⟨.inr h.1, h.2⟩
        · intro h
          obtain rfl | hrest := h.1
          · exact absurd hseen h.2
          · exact ⟨hrest, h.2⟩
      · rw [deduplicatePreserveOrder, if_neg hseen, List.mem_cons, ih, List.mem_cons,
          List.mem_cons, not_or]
        constructor
        · rintro (rfl | ⟨hrest, -, hnew⟩)
          · exact ⟨.inl rfl, hseen⟩
          · exact ⟨.inr hrest, hnew⟩
        · rintro ⟨rfl | hrest, hnew⟩
          · exact .inl rfl
          · by_cases htable : table = item
            · exact .inl htable
            · exact .inr ⟨hrest, htable, hnew⟩

theorem head?_deduplicate (items : List String) :
    (deduplicatePreserveOrder items []).head? = items.head? := by
  cases items with
  | nil => rfl
  | cons item rest => simp [deduplicatePreserveOrder]

theorem extractDetailed_eq (query : Query) :
    (extractDetailed query).tables =
      deduplicatePreserveOrder (query.namedMembers.filterMap tableOf) [] := by
  simp only [extractDetailed, extractFromDimensions, extractFromMeasures, extractFromFilters,
    extractFromJoins, extractFromOrderBy, Query.namedMembers, List.filterMap_append]

theorem mem_extract {query : Query} {table : String} :
    table ∈ extract query ↔ Names query.namedMembers table := by
  rw [extract, extractDetailed_eq, mem_deduplicate, List.mem_filterMap, Names]
  exact and_iff_left List.not_mem_nil

/-- The primary table of the extractor is that of the first of them that has one. -/
theorem primaryTable_extractDetailed (query : Query) :
    (extractDetailed query).primaryTable = (query.namedMembers.filterMap tableOf).head? := by
  rw [show (extractDetailed query).primaryTable = (extractDetailed query).tables.head? from rfl,
    extractDetailed_eq, head?_deduplicate]

theorem Names.mono {members others : List String} {table : String} (h : Names members table)
    (hsub : ∀ member ∈ members, member ∈ others) : Names others table := by
  obtain ⟨member, hmember, htable⟩ := h
  exact ⟨member, hsub member hmember, htable⟩

theorem names_of_mem_filterMap {members : List String} {table : String}
    (h : table ∈ members.filterMap tableOf) : Names members table := List.mem_filterMap.1 h

theorem tables_compileMeasures {zone : JsDate.Zone} {measures : List MeasureSpec}
    {items : List SelectItem} (h : compileMeasures zone measures = .ok items)
    {item : SelectItem} (hitem : item ∈ items) {table : String} (htable : table ∈ item.tables) :
    Names (measures.flatMap MeasureSpec.members) table := by
  have hone : ∀ {measure : MeasureSpec} {item : SelectItem},
      compileMeasureSelect zone measure = .ok item →
      table ∈ item.tables → Names measure.members table := by
    intro measure item hcompiled htable
    unfold compileMeasureSelect at hcompiled
    simp only at hcompiled
    split at hcompiled
    · cases hcompiled
      obtain ⟨member, hmember, hnamed⟩ := names_of_mem_filterMap htable
      obtain rfl : member = measure.member := by simpa using hmember
      exact ⟨measure.member, List.mem_cons_self, hnamed⟩
    · next condition hfilter =>
        split at hcompiled
        · cases hcompiled
        · next predicate hpredicate =>
            cases hcompiled
            obtain ⟨member, hmember, hnamed⟩ := names_of_mem_filterMap htable
            refine ⟨member, ?_, hnamed⟩
            obtain rfl | hmember := List.mem_cons.1 hmember
            · exact List.mem_cons_self
            · have heq := members_compileFilterCondition hpredicate hmember
              simp [MeasureSpec.members, hfilter, heq]
  induction measures generalizing items with
  | nil =>
      cases h
      exact absurd hitem List.not_mem_nil
  | cons measure rest ih =>
      unfold compileMeasures at h
      split at h
      · cases h
      · next first hfirst =>
          split at h
          · cases h
          · next others hothers =>
              cases h
              obtain rfl | hitem := List.mem_cons.1 hitem
              · exact (hone hfirst htable).mono fun member hmember =>
                  List.mem_append_left _ hmember
              · exact (ih hothers hitem).mono fun member hmember =>
                  List.mem_append_right _ hmember

theorem tableOf_eq {member : String} {parsed : ParsedMemberRef}
    (h : parseMemberRef member = some parsed) : tableOf member = some parsed.table := by
  rw [tableOf, h]
  rfl

theorem tables_compileJoinClauses {joins : List JoinSpec} {joinedTables : List String}
    {clause : JoinClause} (hclause : clause ∈ compileJoinClauses joins joinedTables)
    {table : String} (htable : table ∈ clause.tables) :
    Names (joins.flatMap JoinSpec.members) table := by
  induction joins generalizing joinedTables with
  | nil => exact absurd hclause List.not_mem_nil
  | cons join rest ih =>
      have hrest : ∀ {joinedTables : List String},
          clause ∈ compileJoinClauses rest joinedTables →
          Names ((join :: rest).flatMap JoinSpec.members) table := fun hclause =>
        (ih hclause).mono fun member hmember => List.mem_append_right _ hmember
      unfold compileJoinClauses at hclause
      split at hclause
      · next leftParsed rightParsed hleft hright =>
          obtain rfl | hclause := List.mem_cons.1 hclause
          · refine @Names.mono join.members _ _ ?_ fun member hmember =>
              List.mem_append_left _ hmember
            obtain rfl | htable := List.mem_cons.1 htable
            · simp only
              split
              · exact ⟨join.right, by simp [JoinSpec.members], tableOf_eq hright⟩
              · exact ⟨join.left, by simp [JoinSpec.members], tableOf_eq hleft⟩
            · exact names_of_mem_filterMap htable
          · exact hrest hclause
      · exact hrest hclause

/-- A time dimension that the statement names: it is grouped by, or it has a range. -/
def TimeDimensionSpec.Used (timeDim : TimeDimensionSpec) : Prop :=
  timeDim.granularity.isSome = true ∨ timeDim.dateRange.isSome = true

instance (timeDim : TimeDimensionSpec) : Decidable timeDim.Used :=
  inferInstanceAs (Decidable (_ ∨ _))

/-- The members that the statement names for the time dimensions. -/
def Query.timeMembers (query : Query) : List String :=
  (query.timeDimensions.filter TimeDimensionSpec.Used).map TimeDimensionSpec.dimension

theorem mem_timeMembers {query : Query} {timeDim : TimeDimensionSpec}
    (h : timeDim ∈ query.timeDimensions) (hused : timeDim.Used) :
    timeDim.dimension ∈ query.timeMembers :=
  List.mem_map_of_mem (List.mem_filter.2 ⟨h, by simpa using hused⟩)

theorem compileInternal_ok {zone : JsDate.Zone} {now : Int} {query : Query}
    {override : Option String} {result : CompilationResult}
    (h : compileInternal zone now query override = .ok result) :
    ∃ measures filters, query.primaryTable override = some result.statement.fromTable ∧
      compileMeasures zone query.measures = .ok measures ∧
      compileFilterExpressions zone query.filters = .ok filters ∧
      result.statement =
        { selectItems := selectItems query result.statement.fromTable measures
          fromTable := result.statement.fromTable
          joins := compileJoinClauses query.joins [result.statement.fromTable]
          whereItems := filters.map .filter ++ timeRanges zone now query.timeDimensions
          groupItems := groupItems query
          orderBy := query.orderBy
          limit := query.limit
          offset := query.offset.filter fun offset => 0 < offset.value } := by
  unfold compileInternal at h
  split at h
  · cases h
  · next primaryTable hprimary =>
      split at h
      · cases h
      · split at h
        · cases h
        · next measures hmeasures =>
            split at h
            · cases h
            · next filters hfilters =>
                cases h
                exact ⟨measures, filters, hprimary, hmeasures, hfilters, rfl⟩

theorem names_of_tableOf {members : List String} {member table : String}
    (hmember : member ∈ members) (h : table ∈ (tableOf member).toList) : Names members table :=
  ⟨member, hmember, Option.mem_toList.1 h⟩

theorem mem_membersOf {predicates : List Predicate} {predicate : Predicate} {member : String}
    (hpredicate : predicate ∈ predicates) (hmember : member ∈ predicate.members) :
    member ∈ Predicate.membersOf predicates := by
  induction predicates with
  | nil => exact absurd hpredicate List.not_mem_nil
  | cons first rest ih =>
      obtain rfl | hrest := List.mem_cons.1 hpredicate
      · exact List.mem_append_left _ hmember
      · exact List.mem_append_right _ (ih hrest)

theorem tables_whereFilters {zone : JsDate.Zone} {expressions : List FilterExpression}
    {predicates : List Predicate}
    (h : compileFilterExpressions zone expressions = .ok predicates) {table : String}
    (htable : table ∈ (predicates.map WhereItem.filter).flatMap WhereItem.tables) :
    Names (FilterExpression.membersOf expressions) table := by
  obtain ⟨item, hitem, htable⟩ := List.mem_flatMap.1 htable
  obtain ⟨predicate, hpredicate, rfl⟩ := List.mem_map.1 hitem
  obtain ⟨member, hmember, hnamed⟩ := names_of_mem_filterMap htable
  exact ⟨member, members_compileFilterExpressions expressions h (mem_membersOf hpredicate hmember),
    hnamed⟩

variable {zone : JsDate.Zone} {now : Int} {query : Query} {result : CompilationResult}
  {override : Option String}

theorem tables_timeSelects {table : String}
    (h : table ∈ (timeSelects query.timeDimensions).flatMap SelectItem.tables) :
    Names query.timeMembers table := by
  obtain ⟨item, hitem, htable⟩ := List.mem_flatMap.1 h
  obtain ⟨timeDim, htimeDim, hmap⟩ := List.mem_filterMap.1 hitem
  obtain ⟨granularity, hgranularity, rfl⟩ := Option.map_eq_some_iff.1 hmap
  exact names_of_tableOf (mem_timeMembers htimeDim (.inl (by simp [hgranularity]))) htable

theorem tables_timeRanges {table : String}
    (h : table ∈ (timeRanges zone now query.timeDimensions).flatMap WhereItem.tables) :
    Names query.timeMembers table := by
  obtain ⟨item, hitem, htable⟩ := List.mem_flatMap.1 h
  obtain ⟨timeDim, htimeDim, hmap⟩ := List.mem_filterMap.1 hitem
  obtain ⟨dateRange, hrange, rfl⟩ := Option.map_eq_some_iff.1 hmap
  exact names_of_tableOf (mem_timeMembers htimeDim (.inr (by simp [hrange]))) htable

theorem tables_groupItems {table : String}
    (h : table ∈ (groupItems query).flatMap GroupItem.tables) :
    Names query.namedMembers table ∨ Names query.timeMembers table := by
  unfold groupItems at h
  split at h
  · exact absurd h List.not_mem_nil
  · rw [List.flatMap_append, List.mem_append] at h
    obtain h | h := h
    · obtain ⟨item, hitem, htable⟩ := List.mem_flatMap.1 h
      obtain ⟨dimension, hdimension, rfl⟩ := List.mem_map.1 hitem
      refine .inl (names_of_tableOf ?_ htable)
      simp only [Query.namedMembers, List.append_assoc]
      exact List.mem_append_left _ (List.mem_map_of_mem hdimension)
    · obtain ⟨item, hitem, htable⟩ := List.mem_flatMap.1 h
      obtain ⟨timeDim, htimeDim, hmap⟩ := List.mem_filterMap.1 hitem
      obtain ⟨granularity, hgranularity, rfl⟩ := Option.map_eq_some_iff.1 hmap
      exact .inr
        (names_of_tableOf (mem_timeMembers htimeDim (.inl (by simp [hgranularity]))) htable)

theorem tables_selectItems {primaryTable : String} {measures : List SelectItem}
    (hmeasures : compileMeasures zone query.measures = .ok measures) {table : String}
    (h : table ∈ (selectItems query primaryTable measures).flatMap SelectItem.tables) :
    table = primaryTable ∨ Names query.namedMembers table ∨ Names query.timeMembers table := by
  unfold selectItems at h
  simp only at h
  split at h
  · exact .inl (by simpa [SelectItem.tables] using h)
  · rw [List.flatMap_append, List.flatMap_append, List.mem_append, List.mem_append] at h
    obtain (h | h) | h := h
    · obtain ⟨item, hitem, htable⟩ := List.mem_flatMap.1 h
      obtain ⟨dimension, hdimension, rfl⟩ := List.mem_map.1 hitem
      refine .inr (.inl (names_of_tableOf ?_ htable))
      simp only [Query.namedMembers, List.append_assoc]
      exact List.mem_append_left _ (List.mem_map_of_mem hdimension)
    · exact .inr (.inr (tables_timeSelects h))
    · obtain ⟨item, hitem, htable⟩ := List.mem_flatMap.1 h
      refine .inr (.inl ((tables_compileMeasures hmeasures hitem htable).mono ?_))
      intro member hmember
      simp [Query.namedMembers, hmember]

/-- Every table of the statement is the primary one, or that of a member of the query. -/
theorem tables_statement (h : compileInternal zone now query override = .ok result)
    {table : String} (htable : table ∈ result.statement.tables) :
    table = result.statement.fromTable ∨ Names query.namedMembers table ∨
      Names query.timeMembers table := by
  obtain ⟨measures, filters, -, hmeasures, hfilters, hstatement⟩ := compileInternal_ok h
  generalize result.statement.fromTable = primaryTable at hstatement ⊢
  rw [hstatement] at htable
  simp only [Statement.tables, List.mem_cons, List.mem_append, List.flatMap_append] at htable
  obtain rfl | (((htable | htable) | (htable | htable)) | htable) | htable := htable
  · exact .inl rfl
  · exact tables_selectItems hmeasures htable
  · obtain ⟨clause, hclause, htable⟩ := List.mem_flatMap.1 htable
    refine .inr (.inl ((tables_compileJoinClauses hclause htable).mono ?_))
    intro member hmember
    simp only [Query.namedMembers, List.mem_append]
    exact .inl (.inr hmember)
  · refine .inr (.inl ((tables_whereFilters hfilters htable).mono ?_))
    intro member hmember
    simp only [Query.namedMembers, List.mem_append]
    exact .inl (.inl (.inr hmember))
  · exact .inr (.inr (tables_timeRanges htable))
  · exact .inr (tables_groupItems htable)
  · obtain ⟨spec, hspec, htable⟩ := List.mem_flatMap.1 htable
    refine .inr (.inl (names_of_tableOf ?_ htable))
    simp only [Query.namedMembers, List.mem_append]
    exact .inr (List.mem_map_of_mem hspec)

theorem timeTables_statement (h : compileInternal zone now query override = .ok result)
    {table : String} (htable : Names query.timeMembers table) :
    table ∈ result.statement.tables := by
  obtain ⟨measures, filters, -, -, -, hstatement⟩ := compileInternal_ok h
  obtain ⟨member, hmember, hnamed⟩ := htable
  obtain ⟨timeDim, htimeDim, rfl⟩ := List.mem_map.1 hmember
  obtain ⟨htimeDim, hused⟩ := List.mem_filter.1 htimeDim
  have hused : timeDim.Used := by simpa using hused
  rw [hstatement]
  simp only [Statement.tables, List.mem_cons, List.mem_append, List.flatMap_append]
  obtain hgranularity | hrange := hused
  · obtain ⟨granularity, hgranularity⟩ := Option.isSome_iff_exists.1 hgranularity
    have hitem : compileTimeDimensionSelect timeDim granularity ∈
        selectItems query result.statement.fromTable measures := by
      have htime : compileTimeDimensionSelect timeDim granularity ∈
          timeSelects query.timeDimensions :=
        List.mem_filterMap.2 ⟨timeDim, htimeDim, by rw [hgranularity]; rfl⟩
      have hitems : compileTimeDimensionSelect timeDim granularity ∈
          query.dimensions.map compileDimensionSelect ++ timeSelects query.timeDimensions ++
            measures := by simp [htime]
      unfold selectItems
      simp only
      rw [if_neg]
      · exact hitems
      · intro hempty
        rw [List.isEmpty_iff.1 hempty] at hitems
        exact List.not_mem_nil hitems
    refine .inr (.inl (.inl (.inl (.inl (List.mem_flatMap.2 ⟨_, hitem, ?_⟩)))))
    exact Option.mem_toList.2 hnamed
  · obtain ⟨dateRange, hrange⟩ := Option.isSome_iff_exists.1 hrange
    have hitem : WhereItem.dateRange timeDim.dimension (resolveDateRange zone now dateRange) ∈
        timeRanges zone now query.timeDimensions :=
      List.mem_filterMap.2 ⟨timeDim, htimeDim, by rw [hrange]; rfl⟩
    refine .inr (.inl (.inl (.inr (.inr (List.mem_flatMap.2 ⟨_, hitem, ?_⟩)))))
    exact Option.mem_toList.2 hnamed

/-- The compiler's primary table is also the first that the other clauses name.  With a
first dimension in `table.column` form it always is; else no other dimension may name a
table before the first measure does, and without a measure of that form the first member
of all the other clauses that names a table has to name that of the time dimension. -/
def PrimaryNamedFirst (query : Query) : Prop :=
  match headTable (query.dimensions.map DimensionSpec.member),
      headTable (query.measures.map MeasureSpec.member) with
  | some _, _ => True
  | none, some table => ∀ other ∈ (extractFromDimensions query.dimensions).head?, other = table
  | none, none =>
      (query.namedMembers.filterMap tableOf).head? =
        headTable (query.timeDimensions.map TimeDimensionSpec.dimension)

theorem head?_of_headTable {members : List String} {table : String}
    (h : headTable members = some table) : (members.filterMap tableOf).head? = some table := by
  cases members with
  | nil => cases h
  | cons member rest => simp [show tableOf member = some table from h]

theorem primaryNamedFirst_iff {table : String} (h : query.primaryTable none = some table) :
    (query.namedMembers.filterMap tableOf).head? = some table ↔ PrimaryNamedFirst query := by
  have hnamed : (query.namedMembers.filterMap tableOf).head? =
      (extractFromDimensions query.dimensions).head?.or
        ((extractFromMeasures query.measures ++ (extractFromFilters query.filters ++
          (extractFromJoins query.joins ++ extractFromOrderBy query.orderBy))).head?) := by
    simp only [Query.namedMembers, List.filterMap_append, List.append_assoc, List.head?_append,
      extractFromDimensions, extractFromMeasures, extractFromFilters, extractFromJoins,
      extractFromOrderBy]
  unfold PrimaryNamedFirst
  unfold Query.primaryTable at h
  rw [Option.none_or] at h
  cases hdimensions : headTable (query.dimensions.map DimensionSpec.member) with
  | some first =>
      rw [hdimensions, Option.some_or] at h
      cases h
      rw [hnamed, extractFromDimensions, head?_of_headTable hdimensions, Option.some_or]
      simp
  | none =>
      rw [hdimensions, Option.none_or] at h
      cases hmeasures : headTable (query.measures.map MeasureSpec.member) with
      | some first =>
          rw [hmeasures, Option.some_or] at h
          cases h
          have hhead : (extractFromMeasures query.measures).head? = some table := by
            cases hlist : query.measures with
            | nil => rw [hlist] at hmeasures; cases hmeasures
            | cons measure rest =>
                rw [hlist] at hmeasures
                have hmeasure : tableOf measure.member = some table := hmeasures
                simp [extractFromMeasures, MeasureSpec.members, hmeasure]
          rw [hnamed, List.head?_append, hhead, Option.some_or]
          cases (extractFromDimensions query.dimensions).head? with
          | none => simp
          | some other => simp
      | none =>
          rw [hmeasures, Option.none_or] at h
          rw [h]

/-- Every table that the statement names is extracted, and is loaded by every decision
for the browser's database except for a local table; the primary table is the same. -/
def Loads (query : Query) (result : CompilationResult) : Prop :=
  (∀ table ∈ result.statement.tables, table ∈ extract query) ∧
    (extractDetailed query).primaryTable = some result.statement.fromTable ∧
    ∀ context tablesToLoad, context.tables = extract query →
      decide query context = .duckdb false tablesToLoad →
      ∀ table ∈ result.statement.tables, table ∈ tablesToLoad

/-- The tables of the time dimensions in use are named by other clauses too. -/
def TimeTablesNamed (query : Query) : Prop :=
  ∀ member ∈ query.timeMembers, ∀ table ∈ tableOf member, Names query.namedMembers table

/-- **Exact condition.**  The extractor finds what the compiled statement needs if the
other clauses name the tables of the time dimensions in use, and name the primary table
first. -/
theorem loads_iff (h : compileInternal zone now query none = .ok result) :
    Loads query result ↔ TimeTablesNamed query ∧ PrimaryNamedFirst query := by
  obtain ⟨-, -, hprimary, -⟩ := compileInternal_ok h
  have hfirst := primaryNamedFirst_iff hprimary
  constructor
  · rintro ⟨htables, hextracted, -⟩
    rw [primaryTable_extractDetailed] at hextracted
    refine ⟨?_, hfirst.1 hextracted⟩
    intro member hmember table htable
    exact mem_extract.1 (htables table (timeTables_statement h ⟨member, hmember, htable⟩))
  · rintro ⟨htime, hnamed⟩
    have hextracted := hfirst.2 hnamed
    have htables : ∀ table ∈ result.statement.tables, table ∈ extract query := by
      intro table htable
      rw [mem_extract]
      obtain rfl | hother | ⟨member, hmember, htable⟩ := tables_statement h htable
      · exact names_of_mem_filterMap (List.mem_of_head? hextracted)
      · exact hother
      · exact htime member hmember table htable
    refine ⟨htables, by rw [primaryTable_extractDetailed, hextracted], ?_⟩
    intro context tablesToLoad hcontext hdecide table htable
    rw [tablesToLoad_eq hdecide, hcontext]
    exact htables table htable

/-- The revenue by month of one customer: the order dates are in a table that no other
clause names. -/
def revenueByMonth : Query where
  dimensions := [{ member := "users.name" }]
  measures := [{ member := "users.revenue", aggregation := .sum }]
  timeDimensions := [{ dimension := "orders.created_at", granularity := some .month }]

/-- The same with the orders joined. -/
def joinedRevenueByMonth : Query :=
  { revenueByMonth with joins := [⟨"users.id", "orders.user_id", .inner, none⟩] }

theorem joinedRevenueByMonth_loads :
    ∃ result, compileInternal JsDate.utc 0 joinedRevenueByMonth none = .ok result ∧
      Loads joinedRevenueByMonth result := by
  refine ⟨_, rfl, (loads_iff rfl).2 ⟨?_, trivial⟩⟩
  intro member hmember table htable
  obtain rfl : member = "orders.created_at" :=
    List.mem_singleton.1 (show member ∈ ["orders.created_at"] from hmember)
  obtain rfl : table = "orders" := by
    have hparsed : tableOf "orders.created_at" = some "orders" := by decide
    simpa [hparsed, eq_comm] using htable
  exact ⟨"orders.user_id", by decide, by decide⟩

/-- The table of the time dimension is not extracted. -/
theorem not_loads :
    ¬ ∀ query result, compileInternal JsDate.utc 0 query none = .ok result → Loads query result := by
  intro hall
  have htables := (hall revenueByMonth _ rfl).1 "orders" (by decide)
  exact absurd htables (by decide)

end QueryEngine

end Zentra
