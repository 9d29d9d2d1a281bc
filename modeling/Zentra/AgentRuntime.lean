import Mathlib.Data.Rat.Floor
import Mathlib.Data.String.Basic
import Zentra.JsonDocument
import Zentra.PythonText
import Zentra.RaisingTriple
import Zentra.TableRows
import Zentra.WorkflowPolicy

/-!
# The loop of a tool-using agent

An agent is offered the tools that it is permitted, its tool calls are run and their results are
handed back, until it answers or its steps are used up.

* `invoke` — one tool call, whose refusals and failures are results;
* `turn`, `loop`, `run` — one step, the steps, and a run from its first message.
-/

open JsonDocument Raising Raising.Method TableRows

namespace Zentra

namespace AgentExecution

/-- A model asking for a tool to run. -/
structure ToolCall where
  callId : String
  name : String
  arguments : Object := []
  identified : callId ≠ ""
  named : name ≠ ""

structure ToolResult where
  callId : String := ""
  content : String
  isError : Bool := false

/-- That a tool ran, and how it went. -/
structure ToolInvocation where
  name : String
  latencyMs : Nat
  ok : Bool := true
  named : name ≠ ""

/-- What a model is told about a tool. -/
structure ToolDefinition where
  name : String
  description : String
  inputSchema : Object

inductive MessageRole
  | user | assistant
  deriving DecidableEq, Repr

structure ModelMessage where
  role : MessageRole
  content : String
  toolCalls : List ToolCall := []
  toolResults : List ToolResult := []

/-- What one unit of agent work consumed; costs are added as decimals are. -/
structure ExecutionUsage (Cost : Type) where
  inputTokens : Nat
  outputTokens : Nat
  costUsd : Cost
  model : Option String

structure ModelResponse (Cost : Type) where
  text : String
  usage : ExecutionUsage Cost
  fallbacks : List String := []
  toolCalls : List ToolCall := []

/-- The arguments of `complete`. -/
structure ModelRequest where
  model : String
  system : String
  messages : List ModelMessage
  maxTokens : Nat
  responseSchema : Option Object := none
  tools : List ToolDefinition := []

structure AgentDescriptor where
  agentId : String
  role : AgentRole
  /-- the tools of `tool_permissions` -/
  toolPermissions : List String
  contextBudgetTokens : Nat

section Usage

variable {Cost : Type} [Zero Cost] [Add Cost]

/-- `ExecutionUsage()`. -/
def ExecutionUsage.empty : ExecutionUsage Cost where
  inputTokens := 0
  outputTokens := 0
  costUsd := 0
  model := none

/-- `__add__`, which drops the model. -/
def ExecutionUsage.add (usage other : ExecutionUsage Cost) : ExecutionUsage Cost where
  inputTokens := usage.inputTokens + other.inputTokens
  outputTokens := usage.outputTokens + other.outputTokens
  costUsd := usage.costUsd + other.costUsd
  model := none

def accumulate (usage : ExecutionUsage Cost) (response : ModelResponse Cost) :
    ExecutionUsage Cost :=
  { usage.add response.usage with
    model := (response.usage.model.filter (· ≠ "")).or usage.model }

end Usage

structure Skill where
  name : String
  appliesTo : List AgentRole
  instructions : String

/-- `SkillRegistry.apply`. -/
def applySkills (skills : List Skill) (role : AgentRole) (system : String) : String :=
  let applied := (orderedBy (·.name) skills).filter fun skill => role ∈ skill.appliesTo
  if applied = [] then system
  else system ++ "\n\n" ++ PythonText.join "\n\n"
    (applied.map fun skill => "## " ++ skill.name ++ "\n" ++ skill.instructions)

inductive ToolError
  /-- `UnauthorizedToolError` -/
  | unauthorized (message : String)
  /-- a `ValueError`, of which `MalformedAgentResponseError` is one, with the name of its type -/
  | value (typeName message : String)
  /-- any other exception -/
  | other (text : String)

/-- A tool: what it does to the world, and returns or raises. -/
structure ToolPort (World : Type) where
  definition : ToolDefinition
  call : Object → Method World ToolError ToolResult

inductive RunError
  /-- what the model raises -/
  | model (text : String)
  /-- what a tool raises, if it is none of the failures that are reported to the model -/
  | tool (text : String)
  /-- what the validator raises -/
  | accept (text : String)
  | malformedAgentResponse (message : String)
  | stepBudgetExhausted (message : String)
  deriving DecidableEq, Repr

/-- `AgentRuntime`, with what it uses of the language. -/
structure AgentRuntime (World Cost : Type) where
  model : ModelRequest → Method World String (ModelResponse Cost)
  tools : List (ToolPort World)
  skills : List Skill
  maxSteps : Int := 30
  /-- `perf_counter()` -/
  now : World → ℚ × World
  /-- `json.loads`, if it does not raise -/
  loads : String → Option Json
  /-- `repr` of a text -/
  repr : String → String

section Registry

variable {World Cost : Type} (runtime : AgentRuntime World Cost)

/-- `_tools`: the tools by their names, a later one in the place of an earlier one. -/
def AgentRuntime.registry : List (String × ToolPort World) :=
  (runtime.tools.map fun tool => (tool.definition.name, tool)).foldl (setItem Prod.fst) []

def AgentRuntime.definitionsFor (descriptor : AgentDescriptor) : List ToolDefinition :=
  (runtime.registry.filter fun entry => entry.1 ∈ descriptor.toolPermissions).map
    fun entry => entry.2.definition

def AgentRuntime.resolve (descriptor : AgentDescriptor) (name : String) :
    Except ToolError (ToolPort World) :=
  if name ∉ descriptor.toolPermissions then
    .error (.unauthorized (descriptor.agentId ++ " holds no permission for tool " ++
      runtime.repr name))
  else
    match getItem runtime.registry name with
    | none => .error (.unauthorized ("No tool named " ++ runtime.repr name ++ " is registered"))
    | some tool => .ok tool

def AgentRuntime.parseJsonObject (text : String) : Except RunError Object :=
  match runtime.loads text with
  | none => .error (.malformedAgentResponse "Agent response was not valid JSON")
  | some (.object members) => .ok members
  | some _ => .error (.malformedAgentResponse "Agent response was not a JSON object")

end Registry

structure Exchange (Cost : Type) where
  request : ModelRequest
  answer : Except String (ModelResponse Cost)

/-- The variables of a run, and the model calls that it has made. -/
structure Conversing (World Cost : Type) where
  world : World
  conversation : List ModelMessage
  invocations : List ToolInvocation
  usage : ExecutionUsage Cost
  fallbacks : List String
  exchanges : List (Exchange Cost)

structure RuntimeResult (Cost : Type) where
  output : Object
  toolCalls : List ToolInvocation
  usage : ExecutionUsage Cost
  fallbacks : List String
  steps : Nat

structure RunInput (World : Type) where
  descriptor : AgentDescriptor
  system : String
  messages : List ModelMessage
  responseSchema : Object
  /-- `accept`, if there is one: no reason to refuse, or the reason -/
  accept : Option (Object → Method World String (Option String)) := none

def closingTurn : String :=
  "Report your findings now as the required structured object, using only " ++
    "figures from the query results above."

section Run

variable {World Cost : Type} [Zero Cost] [Add Cost] (runtime : AgentRuntime World Cost)
  (input : RunInput World)

def Conversing.start (world : World) (messages : List ModelMessage) : Conversing World Cost where
  world := world
  conversation := messages
  invocations := []
  usage := .empty
  fallbacks := []
  exchanges := []

def Conversing.say (message : ModelMessage) (s : Conversing World Cost) : Conversing World Cost :=
  { s with conversation := s.conversation ++ [message] }

def Conversing.account (response : ModelResponse Cost) (s : Conversing World Cost) :
    Conversing World Cost :=
  { s with
    usage := accumulate s.usage response
    fallbacks := response.fallbacks.foldl (setDefault id) s.fallbacks }

/-- A method of the world, in a run. -/
def inWorld {ε α : Type} (wrap : ε → RunError) (m : Method World ε α) :
    Method (Conversing World Cost) RunError α :=
  zoom Conversing.world (fun world s => { s with world }) wrap m

/-- The system prompt with the skills of the role. -/
def AgentRuntime.prompt : String :=
  applySkills runtime.skills input.descriptor.role input.system

def AgentRuntime.offered : List ToolDefinition := runtime.definitionsFor input.descriptor

def AgentRuntime.complete (request : ModelRequest) :
    Method (Conversing World Cost) RunError (ModelResponse Cost) := fun s =>
  match (runtime.model request).call s.world with
  | (.ok response, world) =>
      (.ok response, { s with world, exchanges := s.exchanges ++ [⟨request, .ok response⟩] })
  | (.error e, world) =>
      (.error (.model e), { s with world, exchanges := s.exchanges ++ [⟨request, .error e⟩] })

/-- The model is asked to go on with the conversation. -/
def AgentRuntime.ask (responseSchema : Option Object) (tools : List ToolDefinition) :
    Method (Conversing World Cost) RunError (ModelResponse Cost) := do
  let s ← self
  let response ← runtime.complete {
    model := input.descriptor.role.value
    system := runtime.prompt input
    messages := s.conversation
    maxTokens := input.descriptor.contextBudgetTokens
    responseSchema := responseSchema
    tools := tools }
  assign (·.account response)
  return response

/-- `perf_counter()`, in a run. -/
def AgentRuntime.clock : Method (Conversing World Cost) RunError ℚ := fun s =>
  (.ok (runtime.now s.world).1, { s with world := (runtime.now s.world).2 })

/-- What a failure of a tool becomes: a result, unless it is an exception that is not reported
to the model. -/
def failureResult (callId : String) : ToolError → Except RunError ToolResult
  | .unauthorized message => .ok { callId := callId, content := message, isError := true }
  | .value typeName message =>
      .ok { callId := callId, content := typeName ++ ": " ++ message, isError := true }
  | .other text => .error (.tool text)

def AgentRuntime.callTool (call : ToolCall) : Method World ToolError ToolResult := do
  let tool ← eval (runtime.resolve input.descriptor call.name)
  tool.call call.arguments

/-- A method of the world, whose failures are results. -/
def answering (callId : String) (m : Method World ToolError ToolResult) :
    Method World RunError ToolResult :=
  Method.catching
    (do
      let result ← m
      return { result with callId := callId })
    fun error => eval (failureResult callId error)

def AgentRuntime.invoke (call : ToolCall) :
    Method (Conversing World Cost) RunError (ToolResult × ToolInvocation) := do
  let started ← runtime.clock
  let result ← inWorld id (answering call.callId (runtime.callTool input call))
  let finished ← runtime.clock
  return (result,
    { name := call.name
      latencyMs := ⌊(finished - started) * 1000⌋.toNat
      ok := !result.isError
      named := call.named })

/-- The tool calls of a response, one after the other. -/
def AgentRuntime.invokeAll : List ToolCall →
    Method (Conversing World Cost) RunError (List ToolResult)
  | [] => return []
  | call :: calls => do
      let (result, invocation) ← runtime.invoke input call
      assign fun s => { s with invocations := s.invocations ++ [invocation] }
      return result :: (← AgentRuntime.invokeAll calls)

/-- The answer in the declared form: the prose of an agent with tools is not it yet. -/
def AgentRuntime.closing (response : ModelResponse Cost) :
    Method (Conversing World Cost) RunError (ModelResponse Cost) := do
  if runtime.offered input = [] then return response
  else
    assign (·.say { role := .assistant, content := response.text })
    assign (·.say { role := .user, content := closingTurn })
    runtime.ask input (some input.responseSchema) []

/-- `accept(output) if accept is not None else None`. -/
def refusalOf (output : Object) : Method (Conversing World Cost) RunError (Option String) :=
  match input.accept with
  | none => return none
  | some accept => inWorld .accept (accept output)

/-- One step: no result, if the conversation goes on. -/
def AgentRuntime.turn (step : Nat) :
    Method (Conversing World Cost) RunError (Option (RuntimeResult Cost)) := do
  let offered := runtime.offered input
  let response ← runtime.ask input (if offered = [] then some input.responseSchema else none)
    offered
  if response.toolCalls ≠ [] then
    assign (·.say
      { role := .assistant, content := response.text, toolCalls := response.toolCalls })
    let results ← runtime.invokeAll input response.toolCalls
    assign (·.say { role := .user, content := "", toolResults := results })
    return none
  else
    let response ← runtime.closing input response
    let output ← eval (runtime.parseJsonObject response.text)
    match ← refusalOf input output with
    | none =>
        let s ← self
        return some
          { output := output
            toolCalls := s.invocations
            usage := s.usage
            fallbacks := s.fallbacks
            steps := step }
    | some refusal =>
        assign (·.say { role := .assistant, content := response.text })
        assign (·.say { role := .user, content := refusal })
        return none

/-- The steps that are left, from the one with the number. -/
def AgentRuntime.loop : Nat → Nat →
    Method (Conversing World Cost) RunError (RuntimeResult Cost)
  | 0, _ => raise (.stepBudgetExhausted (input.descriptor.agentId ++ " used " ++
      toString runtime.maxSteps ++ " steps without producing an answer"))
  | left + 1, step => do
      match ← runtime.turn input step with
      | some result => return result
      | none => AgentRuntime.loop left (step + 1)

def AgentRuntime.run (world : World) :
    Except RunError (RuntimeResult Cost) × Conversing World Cost :=
  (runtime.loop input runtime.maxSteps.toNat 1).call (.start world input.messages)

end Run

end AgentExecution

end Zentra
