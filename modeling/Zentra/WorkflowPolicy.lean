import Zentra.PythonJson
import Zentra.RoutedModelClient

/-!
# Roles and tools of an authored workflow

The data of a node says which role its agent has and which tools it may use.  What is
stored there is read without any further check: every value may be something else.

* `Permitted` — the least privilege that the policy is about;
* `permitted_of_checked` — data that passes the check of an agent names permitted
  tools, and a controller none at all.
-/

open PythonJson

namespace Zentra

def AgentRole.value : AgentRole → String
  | intake => "intake"
  | orchestrator => "orchestrator"
  | dataIntake => "data_intake"
  | dataQuality => "data_quality"
  | dataPreparation => "data_preparation"
  | semanticModeling => "semantic_modeling"
  | cubeAnalyst => "cube_analyst"
  | sqlAnalyst => "sql_analyst"
  | evaluator => "evaluator"
  | statistician => "statistician"
  | insight => "insight"
  | insightRootCause => "insight_root_cause"
  | demandPlanner => "demand_planner"
  | forecaster => "forecaster"
  | visualization => "visualization"
  | executiveReportWriter => "executive_report_writer"
  | knowledge => "knowledge"
  | conversational => "conversational"

/-- The members of `AgentRole`, in order. -/
def AgentRole.members : List AgentRole :=
  [intake, orchestrator, dataIntake, dataQuality, dataPreparation, semanticModeling,
    cubeAnalyst, sqlAnalyst, evaluator, statistician, insight, insightRootCause,
    demandPlanner, forecaster, visualization, executiveReportWriter, knowledge,
    conversational]

/-- `AgentRole(value)`; `none` is its `ValueError`. -/
def AgentRole.ofValue (value : String) : Option AgentRole :=
  AgentRole.members.find? fun role => decide (role.value = value)

namespace Workflow

/-- `WORKFLOW_TOOL_CATALOG`. -/
def workflowToolCatalog : List String :=
  ["connection_inventory", "schema_inspect", "data_query"]

/-- `DATA_DISCOVERY_TOOLS`. -/
def dataDiscoveryTools : List String := workflowToolCatalog

/-- `DATA_DISCOVERY_ROLES`. -/
def dataDiscoveryRoles : List AgentRole := [.cubeAnalyst, .evaluator]

/-- `_ROLE_ALIASES`. -/
def roleAliases : List (String × AgentRole) :=
  [("controller", .orchestrator), ("analyst", .cubeAnalyst), ("reviewer", .evaluator),
    ("writer", .insight), ("custom", .conversational)]

/-- `_WORKFLOW_ROLES`. -/
def workflowRoles : List AgentRole :=
  [.orchestrator, .cubeAnalyst, .evaluator, .insight, .conversational]

/-- `data.get("controller")` counts as true. -/
def controls (data : Object) : Bool := (data.get "controller").any Json.truthy

def workflowAgentRole (data : Object) : Option AgentRole :=
  match data.get "role" with
  | none | some .null =>
      if controls data then some .orchestrator else some .conversational
  | some (.string raw) =>
      match roleAliases.lookup raw with
      | some role => some role
      | none =>
          match AgentRole.ofValue raw with
          | some role => if role ∈ workflowRoles then some role else none
          | none => none
  | some _ => none

/-- `tool in names`. -/
def isOneOf (names : List String) (tool : Json) : Bool :=
  tool.text.any fun name => decide (name ∈ names)

def workflowRoleError (data : Object) (tools : List Json) : Option String :=
  match workflowAgentRole data with
  | none => some "Workflow agents need a supported canonical role"
  | some role =>
      if controls data ∧ role ≠ .orchestrator then
        some "The Workflow controller must have the orchestrator role"
      else if tools.any (isOneOf dataDiscoveryTools) ∧ role ∉ dataDiscoveryRoles then
        some "Only Cube Analyst and Evaluator may use data tools"
      else none

/-- **Least privilege.**  A supported role, registered tools only, data tools for the
two roles that may have them only, and none of them for a controller. -/
structure Permitted (controller : Prop) (role : AgentRole) (tools : List String) :
    Prop where
  supported : role ∈ workflowRoles
  registered : ∀ tool ∈ tools, tool ∈ workflowToolCatalog
  dataTools : ∀ tool ∈ tools, tool ∈ dataDiscoveryTools → role ∈ dataDiscoveryRoles
  controllerTools : controller → ∀ tool ∈ tools, tool ∉ dataDiscoveryTools

instance {controller : Prop} [Decidable controller] {role : AgentRole}
    {tools : List String} : Decidable (Permitted controller role tools) :=
  decidable_of_iff
    (role ∈ workflowRoles ∧ (∀ tool ∈ tools, tool ∈ workflowToolCatalog) ∧
      (∀ tool ∈ tools, tool ∈ dataDiscoveryTools → role ∈ dataDiscoveryRoles) ∧
      (controller → ∀ tool ∈ tools, tool ∉ dataDiscoveryTools))
    ⟨fun h => ⟨h.1, h.2.1, h.2.2.1, h.2.2.2⟩, fun h => ⟨h.1, h.2, h.3, h.4⟩⟩

theorem supported_of_alias {raw : String} {role : AgentRole}
    (h : roleAliases.lookup raw = some role) : role ∈ workflowRoles := by
  have hall : ∀ named ∈ roleAliases, named.2 ∈ workflowRoles := by decide
  obtain ⟨before, after, heq, -⟩ := List.lookup_eq_some_iff.mp h
  exact hall (raw, role) (by rw [heq]; simp)

theorem supported_of_role {data : Object} {role : AgentRole}
    (h : workflowAgentRole data = some role) : role ∈ workflowRoles := by
  unfold workflowAgentRole at h
  split at h
  case h_3 =>
    split at h
    case h_1 halias =>
      cases h
      exact supported_of_alias halias
    case h_2 =>
      split at h
      · split at h
        · cases h
          assumption
        · cases h
      · cases h
  case h_4 => cases h
  all_goals
    split at h
    all_goals
      cases h
      decide

theorem isOneOf_iff {names : List String} {tool : Json} :
    isOneOf names tool = true ↔ ∃ name ∈ names, tool = .string name := by
  unfold isOneOf
  cases tool <;> simp [Json.text]

/-- **The check is the policy.**  Tools from the catalogue that raise no error of the
policy are permitted to the role that the data names. -/
theorem permitted_of_checked {data : Object} {tools : List String}
    (hcatalog : ∀ tool ∈ tools, tool ∈ workflowToolCatalog)
    (hpolicy : workflowRoleError data (tools.map Json.string) = none) :
    ∃ role, workflowAgentRole data = some role ∧
      Permitted (controls data = true) role tools := by
  unfold workflowRoleError at hpolicy
  cases hrole : workflowAgentRole data with
  | none => simp [hrole] at hpolicy
  | some role =>
      simp only [hrole] at hpolicy
      split at hpolicy
      · cases hpolicy
      · rename_i hcontroller
        split at hpolicy
        · cases hpolicy
        · rename_i hdata
          have hheld : ∀ tool ∈ tools, tool ∈ dataDiscoveryTools →
              role ∈ dataDiscoveryRoles := by
            intro tool htool hdiscovery
            by_contra hnot
            refine hdata ⟨List.any_eq_true.mpr ⟨.string tool, ?_, ?_⟩, hnot⟩
            · exact List.mem_map.mpr ⟨tool, htool, rfl⟩
            · exact isOneOf_iff.mpr ⟨tool, hdiscovery, rfl⟩
          refine ⟨role, rfl, supported_of_role hrole, hcatalog, hheld, ?_⟩
          intro hcontrols tool htool hdiscovery
          have horchestrator : role = .orchestrator := by
            by_contra hother
            exact hcontroller ⟨hcontrols, hother⟩
          have := hheld tool htool hdiscovery
          rw [horchestrator] at this
          revert this
          decide

end Workflow

end Zentra
