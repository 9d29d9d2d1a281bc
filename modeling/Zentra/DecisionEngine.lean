import Zentra.TableLoading

/-!
# The decision engine

A query is answered by the HTTP API or by the local database.  The engine tries its rules
in their order, and the first one that matches decides.

* `DecisionEngine.decide` — the first rule that matches, unless a path is forced;
* `TransactionalRead`, `routed_iff` — the reads that the default rules send to the API.
-/

namespace Zentra

namespace QueryEngine

namespace Routing

inductive Operation
  | get
  | list
  | create
  | update
  | delete
  deriving DecidableEq, Repr

def Operation.value : Operation → String
  | get => "get"
  | list => "list"
  | create => "create"
  | update => "update"
  | delete => "delete"

def Operation.isMutationOperation : Operation → Bool
  | create | update | delete => true
  | get | list => false

inductive ExecutionPath
  | api
  | duckdb
  deriving DecidableEq, Repr

/-- `DECISION_REASONS`. -/
inductive DecisionReason
  | mutationUsesApi
  | simpleQueryWithApi
  | hasJoins
  | hasMeasures
  | multipleTables
  | localTable
  | noListApi
  | analyticsPreferred
  | forcedPath
  | noMutationApi
  | noApiAvailable
  | noDecision
  deriving DecidableEq, Repr

structure TableApi where
  list : Bool := false
  get : Bool := false
  create : Bool := false
  update : Bool := false
  delete : Bool := false
  deriving DecidableEq, Repr

/-- `DecisionTableConfig`; `freshness` is that of its `analytics`. -/
structure DecisionTableConfig where
  source : Option String := none
  api : Option TableApi := none
  freshness : Option String := none
  deriving DecidableEq, Repr

/-- A function of the API is defined. -/
def DecisionTableConfig.hasApi (config : DecisionTableConfig) (function : TableApi → Bool) :
    Bool :=
  config.api.any function

structure DecisionContext where
  tables : List String
  operation : Operation
  tableConfigs : String → Option DecisionTableConfig
  isOnline : Bool := true

/-- `tableConfigs.get(tables[0])`. -/
def DecisionContext.primaryConfig (context : DecisionContext) : Option DecisionTableConfig :=
  context.tables.head?.bind context.tableConfigs

structure DecisionOptions where
  forcePath : Option ExecutionPath := none
  preferAnalytics : Bool := false
  includeFactors : Bool := false
  deriving DecidableEq, Repr

structure DecisionFactors where
  isMutation : Bool
  hasJoins : Bool
  hasMeasures : Bool
  tableCount : Nat
  allTablesApi : Bool
  allTablesHaveApi : Bool
  isOnline : Bool
  hasLocalTables : Bool
  deriving DecidableEq, Repr

/-- `DecisionResult`; a table that is missing from the context is loaded as `none`. -/
structure DecisionResult where
  path : ExecutionPath
  reason : DecisionReason
  confidence : Nat
  apiFunction : Option Operation := none
  tablesToLoad : Option (List (Option String)) := none
  warnings : Option (List String) := none
  factors : Option DecisionFactors := none
  deriving DecidableEq, Repr

def computeFactors (query : Query) (context : DecisionContext) : DecisionFactors where
  isMutation := context.operation.isMutationOperation
  hasJoins := 0 < query.joins.length
  hasMeasures := 0 < query.measures.length
  tableCount := context.tables.length
  allTablesApi := context.tables.all fun table =>
    (context.tableConfigs table).any fun config => config.source ≠ some "local"
  allTablesHaveApi := context.tables.all fun table =>
    (context.tableConfigs table).any fun config =>
      config.hasApi TableApi.list || config.hasApi TableApi.get
  isOnline := context.isOnline
  hasLocalTables := context.tables.any fun table =>
    (context.tableConfigs table).any fun config => config.source = some "local"

/-- The query asks for one record: `wantsGet`. -/
def wantsGet (query : Query) (context : DecisionContext) : Bool :=
  query.entityId.any (· ≠ "") || context.operation = .get

/-- `DecisionRule`; `applies` is its `match`. -/
structure DecisionRule where
  name : String
  applies : Query → DecisionContext → DecisionFactors → DecisionOptions → Bool
  decide : Query → DecisionContext → DecisionFactors → DecisionOptions → DecisionResult

def mutationRef (config : DecisionTableConfig) : Operation → Bool
  | .create => config.hasApi TableApi.create
  | .update => config.hasApi TableApi.update
  | .delete => config.hasApi TableApi.delete
  | .get | .list => false

def mutationRule : DecisionRule where
  name := "mutation"
  applies _ _ factors _ := factors.isMutation
  decide _ context factors _ :=
    if context.primaryConfig.any fun config => mutationRef config context.operation then
      { path := .api, reason := .mutationUsesApi, confidence := 100,
        apiFunction := some context.operation, factors := some factors }
    else
      { path := .api, reason := .noMutationApi, confidence := 0,
        warnings := some ["Cannot perform '" ++ context.operation.value ++ "' - no API defined"],
        factors := some factors }

def loadTables (reason : DecisionReason) (context : DecisionContext)
    (factors : DecisionFactors) : DecisionResult where
  path := .duckdb
  reason := reason
  confidence := 100
  tablesToLoad := some (context.tables.map some)
  factors := some factors

def joinsRule : DecisionRule where
  name := "has-joins"
  applies _ _ factors _ := factors.hasJoins
  decide _ context factors _ := loadTables .hasJoins context factors

def measuresRule : DecisionRule where
  name := "has-measures"
  applies _ _ factors _ := factors.hasMeasures
  decide _ context factors _ := loadTables .hasMeasures context factors

def multipleTablesRule : DecisionRule where
  name := "multiple-tables"
  applies _ _ factors _ := 1 < factors.tableCount
  decide _ context factors _ := loadTables .multipleTables context factors

def localTableRule : DecisionRule where
  name := "local-table"
  applies _ context factors _ :=
    factors.hasLocalTables || context.primaryConfig.any fun config => config.source = some "local"
  decide _ _ factors _ :=
    { path := .duckdb, reason := .localTable, confidence := 100, tablesToLoad := some [],
      factors := some factors }

def noApiRule : DecisionRule where
  name := "no-api"
  applies query context _ _ :=
    let hasListApi := context.primaryConfig.any fun config => config.hasApi TableApi.list
    let hasGetApi := context.primaryConfig.any fun config => config.hasApi TableApi.get
    (!wantsGet query context && !hasListApi) ||
      (wantsGet query context && !hasGetApi && !hasListApi)
  decide query context factors _ :=
    { path := .duckdb
      reason := if wantsGet query context then .noApiAvailable else .noListApi
      confidence := 100
      tablesToLoad := some [context.tables.head?]
      factors := some factors }

def analyticsPreferredRule : DecisionRule where
  name := "analytics-preferred"
  applies _ context _ options :=
    options.preferAnalytics && context.primaryConfig.any fun config =>
      config.freshness = some "EVENTUAL" || config.freshness = some "eventual"
  decide _ context factors _ :=
    { path := .duckdb, reason := .analyticsPreferred, confidence := 80,
      tablesToLoad := some [context.tables.head?], factors := some factors }

def defaultApiRule : DecisionRule where
  name := "default-api"
  applies _ _ _ _ := true
  decide query context factors _ :=
    { path := .api, reason := .simpleQueryWithApi, confidence := 100,
      apiFunction := some (if wantsGet query context then .get else .list),
      factors := some factors }

def DEFAULT_DECISION_RULES : List DecisionRule :=
  [mutationRule, joinsRule, measuresRule, multipleTablesRule, localTableRule, noApiRule,
    analyticsPreferredRule, defaultApiRule]

/-- `DisposedError`, with the name it is given. -/
structure DisposedError where
  name : String
  deriving DecidableEq, Repr

structure DecisionEngine where
  rules : List DecisionRule := DEFAULT_DECISION_RULES
  isDisposed : Bool := false

/-- The factors leave a result when they are not asked for. -/
def DecisionResult.strip (result : DecisionResult) (options : DecisionOptions) :
    DecisionResult :=
  if options.includeFactors then result else { result with factors := none }

def DecisionEngine.decide (engine : DecisionEngine) (query : Query) (context : DecisionContext)
    (options : DecisionOptions) : Except DisposedError DecisionResult :=
  if engine.isDisposed then .error ⟨"DecisionEngine"⟩
  else
    let factors := computeFactors query context
    match options.forcePath with
    | some path =>
        .ok (DecisionResult.strip
          { path := path, reason := .forcedPath, confidence := 100, factors := some factors }
          options)
    | none =>
        match engine.rules.find? fun rule => rule.applies query context factors options with
        | some rule => .ok ((rule.decide query context factors options).strip options)
        | none =>
            .ok (DecisionResult.strip
              { path := .api, reason := .noDecision, confidence := 0, factors := some factors }
              options)

section Reads

variable {query : Query} {context : DecisionContext} {options : DecisionOptions}

/-- The table of the query has the API function that the query asks for. -/
def HasReadApi (query : Query) (context : DecisionContext) : Prop :=
  ∃ config, context.primaryConfig = some config ∧
    (config.hasApi TableApi.list = true ∨
      wantsGet query context = true ∧ config.hasApi TableApi.get = true)

/-- A read of one table that is not local, has the API function, and is not preferred to be
answered by analytics. -/
structure TransactionalRead (query : Query) (context : DecisionContext)
    (options : DecisionOptions) : Prop where
  notForced : options.forcePath = none
  read : context.operation.isMutationOperation = false
  noJoins : query.joins = []
  noMeasures : query.measures = []
  oneTable : context.tables.length ≤ 1
  notLocal : ∀ config, context.primaryConfig = some config → config.source ≠ some "local"
  hasApi : HasReadApi query context
  notAnalytics : options.preferAnalytics = true → ∀ config, context.primaryConfig = some config →
    config.freshness ≠ some "EVENTUAL" ∧ config.freshness ≠ some "eventual"

/-- The default rules send a read to the API. -/
def Routed (query : Query) (context : DecisionContext) (options : DecisionOptions) : Prop :=
  options.forcePath = none ∧ context.operation.isMutationOperation = false ∧
    ∃ result, DecisionEngine.decide {} query context options = .ok result ∧ result.path = .api

@[simp] theorem path_strip (result : DecisionResult) (options : DecisionOptions) :
    (result.strip options).path = result.path := by
  unfold DecisionResult.strip
  split <;> rfl

/-- The rules between those for mutations and for the rest. -/
def duckdbRules : List DecisionRule :=
  [joinsRule, measuresRule, multipleTablesRule, localTableRule, noApiRule,
    analyticsPreferredRule]

theorem path_of_mem_duckdbRules {rule : DecisionRule} (h : rule ∈ duckdbRules)
    (factors : DecisionFactors) : (rule.decide query context factors options).path = .duckdb := by
  simp only [duckdbRules, List.mem_cons, List.not_mem_nil, or_false] at h
  rcases h with rfl | rfl | rfl | rfl | rfl | rfl <;> rfl

/-- A read goes to the API when none of these rules applies. -/
theorem decide_read (hforced : options.forcePath = none)
    (hread : context.operation.isMutationOperation = false) :
    ∃ result, DecisionEngine.decide {} query context options = .ok result ∧
      (result.path = .api ↔ ∀ rule ∈ duckdbRules,
        rule.applies query context (computeFactors query context) options = false) := by
  have hrules : DEFAULT_DECISION_RULES = mutationRule :: (duckdbRules ++ [defaultApiRule]) := rfl
  have hmutation : mutationRule.applies query context (computeFactors query context) options =
      false := hread
  simp only [DecisionEngine.decide, hforced, hrules, List.find?_cons, hmutation, Bool.false_eq_true,
    if_false, List.find?_append]
  cases hfind : duckdbRules.find? fun rule =>
      rule.applies query context (computeFactors query context) options with
  | none =>
      refine ⟨_, rfl, ?_⟩
      rw [List.find?_eq_none] at hfind
      simp only [path_strip]
      exact ⟨fun _ rule hrule => by simpa using hfind rule hrule, fun _ => rfl⟩
  | some rule =>
      refine ⟨_, rfl, ?_⟩
      have hmem := List.mem_of_find?_eq_some hfind
      have happlies := List.find?_some hfind
      constructor
      · intro hapi
        rw [path_strip, path_of_mem_duckdbRules hmem] at hapi
        cases hapi
      · intro hnone
        rw [hnone rule hmem] at happlies
        cases happlies

theorem hasLocalTables_eq (h : context.tables.length ≤ 1) :
    (computeFactors query context).hasLocalTables =
      context.primaryConfig.any fun config => config.source = some "local" := by
  simp only [computeFactors, DecisionContext.primaryConfig]
  match hcase : context.tables, h with
  | [], _ => rfl
  | [table], _ => simp
  | _ :: _ :: _, h => simp at h

theorem noApiRule_applies {factors : DecisionFactors} :
    noApiRule.applies query context factors options = false ↔ HasReadApi query context := by
  simp only [noApiRule, HasReadApi]
  cases context.primaryConfig with
  | none => cases wantsGet query context <;> simp
  | some config =>
      simp only [Option.any_some, Option.some.injEq, exists_eq_left']
      cases wantsGet query context <;> cases config.hasApi TableApi.list <;>
        cases config.hasApi TableApi.get <;> decide

theorem analyticsPreferredRule_applies {factors : DecisionFactors} :
    analyticsPreferredRule.applies query context factors options = false ↔
      (options.preferAnalytics = true → ∀ config, context.primaryConfig = some config →
        config.freshness ≠ some "EVENTUAL" ∧ config.freshness ≠ some "eventual") := by
  simp only [analyticsPreferredRule]
  cases options.preferAnalytics with
  | false => simp
  | true => cases context.primaryConfig <;> simp

/-- **The reads of the API.** -/
theorem routed_iff : Routed query context options ↔ TransactionalRead query context options := by
  constructor
  · rintro ⟨hforced, hread, result, hdecide, hapi⟩
    obtain ⟨result', hdecide', hpath⟩ := @decide_read query _ _ hforced hread
    obtain rfl : result = result' := Except.ok.inj (hdecide.symm.trans hdecide')
    have hnone := hpath.1 hapi
    have hlength : context.tables.length ≤ 1 := by
      simpa [multipleTablesRule, computeFactors] using hnone multipleTablesRule (by
        simp [duckdbRules])
    have hlocal := hnone localTableRule (by simp [duckdbRules])
    simp only [localTableRule, hasLocalTables_eq hlength, Bool.or_self] at hlocal
    exact {
      notForced := hforced
      read := hread
      noJoins := by
        simpa [joinsRule, computeFactors] using hnone joinsRule (by simp [duckdbRules])
      noMeasures := by
        simpa [measuresRule, computeFactors] using hnone measuresRule (by simp [duckdbRules])
      oneTable := hlength
      notLocal := by
        intro config hconfig
        simpa [hconfig] using hlocal
      hasApi := noApiRule_applies.1 (hnone noApiRule (by simp [duckdbRules]))
      notAnalytics := analyticsPreferredRule_applies.1
        (hnone analyticsPreferredRule (by simp [duckdbRules])) }
  · intro h
    obtain ⟨result, hdecide, hpath⟩ := @decide_read query _ _ h.notForced h.read
    refine ⟨h.notForced, h.read, result, hdecide, hpath.2 fun rule hrule => ?_⟩
    simp only [duckdbRules, List.mem_cons, List.not_mem_nil, or_false] at hrule
    rcases hrule with rfl | rfl | rfl | rfl | rfl | rfl
    · simp [joinsRule, computeFactors, h.noJoins]
    · simp [measuresRule, computeFactors, h.noMeasures]
    · simpa [multipleTablesRule, computeFactors] using h.oneTable
    · simp only [localTableRule, hasLocalTables_eq h.oneTable, Bool.or_self]
      cases hconfig : context.primaryConfig with
      | none => rfl
      | some config => simpa using h.notLocal config hconfig
    · exact noApiRule_applies.2 h.hasApi
    · exact analyticsPreferredRule_applies.2 h.notAnalytics

end Reads

end Routing

end QueryEngine

end Zentra
