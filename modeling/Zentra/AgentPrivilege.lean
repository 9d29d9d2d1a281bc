import Zentra.AgentRuntime

/-!
# The tools that an agent is not permitted

A run is the one that it would be if the tools that are not permitted were not registered: the
model does not hear of them, and no call of the model reaches one.
-/

open Raising Raising.Method TableRows

namespace Zentra

namespace AgentExecution

variable {World Cost : Type} (runtime : AgentRuntime World Cost) (input : RunInput World)

/-- The runtime with the tools of some names only. -/
def AgentRuntime.restricted (names : List String) : AgentRuntime World Cost :=
  { runtime with tools := runtime.tools.filter fun tool => tool.definition.name ∈ names }

theorem registry_restricted (names : List String) :
    (runtime.restricted names).registry = runtime.registry.filter fun entry => entry.1 ∈ names := by
  unfold AgentRuntime.registry AgentRuntime.restricted
  rw [filter_foldl_setItem (· ∈ names), List.filter_map]
  rfl

/-- The runtime with the tools that the agent is permitted. -/
abbrev AgentRuntime.permitted : AgentRuntime World Cost :=
  runtime.restricted input.descriptor.toolPermissions

theorem offered_permitted : (runtime.permitted input).offered input = runtime.offered input := by
  unfold AgentRuntime.offered AgentRuntime.definitionsFor
  rw [registry_restricted, List.filter_filter]
  simp only [Bool.and_self]

theorem resolve_permitted (name : String) :
    (runtime.permitted input).resolve input.descriptor name =
      runtime.resolve input.descriptor name := by
  unfold AgentRuntime.resolve
  by_cases hname : name ∈ input.descriptor.toolPermissions
  · rw [if_neg (not_not.2 hname), if_neg (not_not.2 hname), registry_restricted,
      getItem_filter (· ∈ input.descriptor.toolPermissions) hname]
    rfl
  · rw [if_pos hname, if_pos hname]
    rfl

theorem invokeAll_permitted (calls : List ToolCall) :
    (runtime.permitted input).invokeAll input calls = runtime.invokeAll input calls := by
  have hcall (call : ToolCall) :
      (runtime.permitted input).callTool input call = runtime.callTool input call := by
    unfold AgentRuntime.callTool
    rw [resolve_permitted]
  have hinvoke (call : ToolCall) :
      (runtime.permitted input).invoke input call = runtime.invoke input call := by
    unfold AgentRuntime.invoke
    rw [hcall]
    rfl
  induction calls with
  | nil => rfl
  | cons call calls ih =>
      unfold AgentRuntime.invokeAll
      rw [hinvoke, ih]

section Run

variable [Add Cost]

theorem closing_permitted (response : ModelResponse Cost) :
    (runtime.permitted input).closing input response = runtime.closing input response := by
  unfold AgentRuntime.closing
  rw [offered_permitted]
  rfl

theorem turn_permitted (step : Nat) :
    (runtime.permitted input).turn input step = runtime.turn input step := by
  unfold AgentRuntime.turn
  simp only [offered_permitted, invokeAll_permitted, closing_permitted]
  rfl

theorem loop_permitted (left step : Nat) :
    (runtime.permitted input).loop input left step = runtime.loop input left step := by
  induction left generalizing step with
  | zero => rfl
  | succ left ih =>
      unfold AgentRuntime.loop
      simp only [turn_permitted, ih]

variable [Zero Cost]

/-- **A run uses permitted tools only.** -/
theorem run_permitted (world : World) :
    (runtime.permitted input).run input world = runtime.run input world := by
  unfold AgentRuntime.run
  rw [loop_permitted]
  rfl

end Run

end AgentExecution

end Zentra
