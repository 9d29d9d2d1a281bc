import Zentra.CubeScope

/-!
# The `data_query` tool

An agent hands the tool the arguments of one structured query.  The tool checks their
shape, that each member belongs to the selected source and that the catalog of its layer
names the source, and then sends the query on.

* `dataQueryFromJson` — the shape of the arguments;
* `validateSourceScope_eq_ok` — when the source of a query is accepted.
-/

open JsonDocument PythonText

namespace Zentra

namespace AgentData

/-- Why the tool does not send a query. -/
inductive QueryFailure
  | malformedAgentResponse (message : String)
  | invalidSemanticQuery (message : String)
  /-- an error that the tool does not turn into a refusal -/
  | uncaught
  deriving DecidableEq, Repr

/-- `sorted(texts)`. -/
def sorted (texts : List String) : List String := texts.insertionSort (· ≤ ·)

def validateExactObject (value : Json) (properties : List String) (label : String) :
    Except QueryFailure Object :=
  match value with
  | .object members =>
      let actual := (members.map Prod.fst).dedup
      let missing := properties.filter (· ∉ actual)
      let unknown := actual.filter (· ∉ properties)
      let missed := if missing = [] then "" else "missing " ++ join ", " (sorted missing)
      let detail := if unknown = [] then missed else
        (if missed = "" then "" else missed ++ "; ") ++ "unsupported " ++
          join ", " (sorted unknown)
      if missing = [] ∧ unknown = [] then .ok members
      else .error (.malformedAgentResponse (label ++ " has " ++ detail ++ " fields"))
  | _ => .error (.malformedAgentResponse (label ++ " must be an object"))

def text? : Json → Option String
  | .string text => some text
  | _ => none

def validateStrings (value : Json) (label : String) : Except QueryFailure (List String) :=
  let refused := .error (.malformedAgentResponse (label ++ " must be an array of strings"))
  match value with
  | .array items =>
      match items.mapM text? with
      | some texts => .ok texts
      | none => refused
  | _ => refused

def textOrNull (value : Json) (message : String) : Except QueryFailure (Option String) :=
  match value with
  | .null => .ok none
  | .string text => .ok (some text)
  | _ => .error (.malformedAgentResponse message)

/-- What a loop over a value goes through; numbers, truth values and null raise. -/
def iterate : Json → Except QueryFailure (List Json)
  | .array items => .ok items
  | .object members => .ok (members.map fun member => .string member.1)
  | .string text => .ok (text.toList.map fun c => .string (String.singleton c))
  | .null | .bool _ | .number _ => .error .uncaught

/-- The value of a field that is known to be there. -/
def field (name : String) (members : Object) : Json := (members.get name).getD .null

def validateTimeDimension (index : Nat) (item : Json) :
    Except QueryFailure SemanticTimeDimension := do
  let members ← validateExactObject item ["dimension", "granularity", "date_range"]
    ("data_query.time_dimensions[" ++ toString index ++ "]")
  match field "dimension" members with
  | .string dimension =>
      let granularity ← textOrNull (field "granularity" members)
        "time dimension granularity must be a string"
      match field "date_range" members with
      | .null => return { dimension, granularity }
      | value =>
          match ← validateStrings value "time dimension date_range" with
          | [first, last] => return { dimension, granularity, dateRange := some (first, last) }
          | _ => .error (.malformedAgentResponse
              "time dimension date_range must contain two values")
  | _ => .error (.malformedAgentResponse "time dimension must name a dimension")

def validateFilter (index : Nat) (item : Json) : Except QueryFailure SemanticFilter := do
  let members ← validateExactObject item ["member", "operator", "values"]
    ("data_query.filters[" ++ toString index ++ "]")
  match field "member" members, field "operator" members with
  | .string member, .string operator =>
      let values ← validateStrings (field "values" members) "filter values"
      return { member, operator, values }
  | _, _ => .error (.malformedAgentResponse "filter member and operator must be strings")

/-- The items of a field, each with its index. -/
def validateItems {α : Type} (validate : Nat → Json → Except QueryFailure α) (value : Json) :
    Except QueryFailure (List α) := do
  let items ← iterate value
  items.zipIdx.mapM fun entry => validate entry.2 entry.1

/-- What the arguments hold once their shape is checked. -/
structure DataQueryPayload where
  sourceId : Option String
  measures : List String
  dimensions : List String
  timeDimensions : List SemanticTimeDimension
  filters : List SemanticFilter
  deriving DecidableEq

def validateDataQueryPayload (payload : Object) : Except QueryFailure DataQueryPayload := do
  let members ← validateExactObject (.object payload)
    ["source_id", "measures", "dimensions", "time_dimensions", "filters"] "data_query"
  let sourceId ← textOrNull (field "source_id" members)
    "data_query.source_id must be a string"
  let measures ← validateStrings (field "measures" members) "data_query.measures"
  let dimensions ← validateStrings (field "dimensions" members) "data_query.dimensions"
  let timeDimensions ← validateItems validateTimeDimension (field "time_dimensions" members)
  let filters ← validateItems validateFilter (field "filters" members)
  return { sourceId, measures, dimensions, timeDimensions, filters }

/-- What the query model's own validation does: how it reads an id, and what it says of
values that it does not accept. -/
structure ModelValidation where
  readUuid : String → Option UUID
  complaint : DataQueryPayload → String

/-- `semantic_query_from_json`, on arguments of the right shape. -/
def semanticQueryFromJson (validation : ModelValidation) (payload : DataQueryPayload) :
    Except QueryFailure SemanticQuery :=
  let unusable := .error (.malformedAgentResponse
    ("Agent proposed an unusable semantic query: " ++ validation.complaint payload))
  let named := payload.timeDimensions.map (·.dimension) ++ payload.filters.map (·.member) ++
    payload.filters.map (·.operator)
  let query : SemanticQuery :=
    { measures := payload.measures
      dimensions := payload.dimensions
      timeDimensions := payload.timeDimensions
      filters := payload.filters }
  if "" ∈ named then unusable
  else
    match payload.sourceId with
    | none => .ok query
    | some text =>
        match validation.readUuid text with
        | some sourceId => .ok { query with sourceId := some sourceId }
        | none => unusable

def dataQueryFromJson (validation : ModelValidation) (arguments : Object) :
    Except QueryFailure SemanticQuery := do
  semanticQueryFromJson validation (← validateDataQueryPayload arguments)

def validateSourceScope (layer : SemanticLayer) (query : SemanticQuery) (sourceId : UUID) :
    Except QueryFailure Unit :=
  if ∃ member ∈ query.members, ¬ StartsWith (sourceFront sourceId) member then
    .error (.invalidSemanticQuery ("All query members must belong to the selected " ++
      "source_id; cross-source joins are not supported."))
  else
    match layer.catalog with
    | none => .error .uncaught
    | some catalog =>
        if catalog.Knows sourceId then .ok ()
        else .error (.invalidSemanticQuery
          "The requested source is not available to this agent.")

structure ToolResult where
  content : String
  isError : Bool := false
  deriving DecidableEq, Repr

def refusal (message : String) : ToolResult := { content := message, isError := true }

/-- `MAX_QUERY_ROWS`. -/
def maxQueryRows : Nat := 200

variable {Row : Type} (rowText : Row → String)

def renderQueryResult (rows : List Row) : ToolResult :=
  if rows.isEmpty then { content := "The query returned no rows." }
  else
    let body := join "\n" ((rows.take maxQueryRows).map rowText)
    { content := if rows.length > maxQueryRows then
        body ++ "\n(" ++ toString (rows.length - maxQueryRows) ++
          " more rows withheld — aggregate further.)"
      else body }

/-- What a call of the tool ends with. -/
inductive Outcome
  | returned (result : ToolResult)
  | raised
  deriving DecidableEq, Repr

/-- What the tool makes of the answer of a layer. -/
def Outcome.ofAnswer : Except SemanticError (List Row) → Outcome
  | .ok rows => returned (renderQueryResult rowText rows)
  | .error (.invalidSemanticQuery message) => returned (refusal message)
  | .error .unavailable => raised

/-- What the tool makes of a query that it does not send. -/
def Outcome.ofFailure : QueryFailure → Outcome
  | .malformedAgentResponse message => returned (refusal message)
  | .invalidSemanticQuery message => returned (refusal message)
  | .uncaught => raised

/-- `DataQueryTool`, with what it remembers of the last query that was answered. -/
structure DataQueryTool (Row : Type) where
  semanticLayer : SemanticLayer
  lastQuery : Option SemanticQuery := none
  lastRows : List Row := []

/-- What a call of the tool leads to. -/
structure Invocation (Row : Type) where
  outcome : Outcome
  received : List Received
  tool : DataQueryTool Row

namespace DataQueryTool

variable (validation : ModelValidation) (cube : Cube Row) (tool : DataQueryTool Row)

/-- The tool after the answer of a layer. -/
def remember (query : SemanticQuery) :
    Except SemanticError (List Row) → DataQueryTool Row
  | .ok rows => { tool with lastQuery := some query, lastRows := rows }
  | .error _ => tool

/-- A call that ends before the query is sent. -/
def stopped (failure : QueryFailure) : Invocation Row where
  outcome := .ofFailure failure
  received := []
  tool := tool

/-- The query is sent to the layer of the tool. -/
def send (query : SemanticQuery) : Invocation Row :=
  let raw := tool.semanticLayer.queryRaw cube query
  { outcome := .ofAnswer rowText raw.answer
    received := raw.received
    tool := tool.remember query raw.answer }

def invoke (arguments : Object) : Invocation Row :=
  match dataQueryFromJson validation arguments with
  | .error failure => tool.stopped failure
  | .ok query =>
      match query.sourceId with
      | none => tool.stopped (.malformedAgentResponse "source_id is required")
      | some sourceId =>
          match validateSourceScope tool.semanticLayer query sourceId with
          | .error failure => tool.stopped failure
          | .ok () => tool.send rowText cube query

end DataQueryTool

/-- **An accepted source.** Every member carries the prefix of the source, and the catalog
of the layer names the source. -/
theorem validateSourceScope_eq_ok {layer : SemanticLayer} {query : SemanticQuery}
    {sourceId : UUID} :
    validateSourceScope layer query sourceId = .ok () ↔
      (∀ member ∈ query.members, StartsWith (sourceFront sourceId) member) ∧
        ∃ catalog, layer.catalog = some catalog ∧ catalog.Knows sourceId := by
  unfold validateSourceScope
  by_cases hforeign : ∃ member ∈ query.members, ¬ StartsWith (sourceFront sourceId) member
  · rw [if_pos hforeign]
    constructor
    · intro h
      cases h
    · intro h
      obtain ⟨member, hmem, hnot⟩ := hforeign
      exact absurd (h.1 member hmem) hnot
  · rw [if_neg hforeign]
    have hall : ∀ member ∈ query.members, StartsWith (sourceFront sourceId) member := by
      intro member hmem
      by_contra hnot
      exact hforeign ⟨member, hmem, hnot⟩
    cases hcatalog : layer.catalog with
    | none => simp
    | some catalog =>
        by_cases hknows : catalog.Knows sourceId
        · simpa [hknows] using hall
        · simp [hknows]

/-- **A refused source.** A member lacks the prefix of the source, or the catalog of the layer
can be read and does not name the source. -/
theorem validateSourceScope_refuses {layer : SemanticLayer} {query : SemanticQuery}
    {sourceId : UUID} :
    (∃ message, validateSourceScope layer query sourceId =
        .error (.invalidSemanticQuery message)) ↔
      (∃ member ∈ query.members, ¬ StartsWith (sourceFront sourceId) member) ∨
        ∃ catalog, layer.catalog = some catalog ∧ ¬ catalog.Knows sourceId := by
  unfold validateSourceScope
  by_cases hforeign : ∃ member ∈ query.members, ¬ StartsWith (sourceFront sourceId) member
  · rw [if_pos hforeign]
    exact iff_of_true ⟨_, rfl⟩ (.inl hforeign)
  · rw [if_neg hforeign]
    cases hcatalog : layer.catalog with
    | none => simp [hforeign]
    | some catalog =>
        by_cases hknows : catalog.Knows sourceId
        · simp [hforeign, hknows]
        · simp [hknows]

namespace DataQueryTool

variable {validation : ModelValidation} {cube : Cube Row} {tool : DataQueryTool Row}
  {rowText : Row → String} {arguments : Object} {query : SemanticQuery} {sourceId : UUID}

theorem invoke_of_ok (hparse : dataQueryFromJson validation arguments = .ok query)
    (hsource : query.sourceId = some sourceId)
    (hvalid : validateSourceScope tool.semanticLayer query sourceId = .ok ()) :
    tool.invoke rowText validation cube arguments = tool.send rowText cube query := by
  simp only [invoke, hparse, hsource, hvalid]

theorem invoke_of_error {failure : QueryFailure}
    (hparse : dataQueryFromJson validation arguments = .ok query)
    (hsource : query.sourceId = some sourceId)
    (hinvalid : validateSourceScope tool.semanticLayer query sourceId = .error failure) :
    tool.invoke rowText validation cube arguments = tool.stopped failure := by
  simp only [invoke, hparse, hsource, hinvalid]

end DataQueryTool

end AgentData

end Zentra
