import Zentra.WorkflowTermination

/-!
# What the agents of a published workflow are granted

For every node that the engine invokes, the execution service reads the role and the
tools again from the data of the node, and builds the descriptor of an agent from them.
The check has seen the data of the nodes of the type "agent"; the engine invokes nodes
of every other type as well, and the service does not ask for the type.

* `passes_of_agent`, `descriptor_of_passes` — checked agents pass, and what passes is
  given such a descriptor;
* `leastPrivilege_iff` — the definitions without an error that keep to the policy.
-/

open PythonJson EdgeWalks StepTrace

namespace Zentra.Workflow

inductive InvokeError
  /-- A `KeyError`: the node has no data. -/
  | missingData
  /-- An `AttributeError`: the data has no `get`. -/
  | noGet
  /-- A `TypeError`: the tools are nothing to loop over. -/
  | notIterable
  /-- `Workflow agent has an unsupported role`. -/
  | unsupportedRole
  /-- A `ValidationError`: a tool name is no text, or empty. -/
  | invalidTool
  /-- A `TypeError`: the skills are no texts to join. -/
  | notJoinable
  /-- The agent itself failed. -/
  | agentFailed

/-- `AgentDescriptor`, as far as it depends on the node.  Every tool is permitted for
reading. -/
structure AgentDescriptor where
  agentId : String
  role : AgentRole
  toolPermissions : List String
  deriving DecidableEq, Repr

/-- `tuple(data.get(key, ()))`. -/
def itemsAt (key : String) (data : Object) : Option (List Json) :=
  match data.get key with
  | none => some []
  | some value => value.items

/-- The tool name of a `ToolScope`. -/
def toolName (tool : Json) : Option String :=
  match tool.text with
  | none => none
  | some name => if name = "" then none else some name

/-- The descriptor that the service builds for a node. -/
def descriptorOf (node : Node) : Except InvokeError AgentDescriptor :=
  match node.fields.get "data" with
  | none => .error .missingData
  | some value =>
      match asObject value with
      | none => .error .noGet
      | some data =>
          match itemsAt "tools" data with
          | none => .error .notIterable
          | some tools =>
              match workflowAgentRole data with
              | none => .error .unsupportedRole
              | some role =>
                  match tools.mapM toolName with
                  | none => .error .invalidTool
                  | some names =>
                      .ok { agentId := "workflow-" ++ node.id
                            role := role
                            toolPermissions := names }

/-- `' '.join(data.get('skills', ()))` does not raise. -/
def joinable (node : Node) : Bool :=
  node.data.any fun data =>
    (itemsAt "skills" data).any fun items => items.all fun item => item.text.isSome

/-- An agent with a descriptor: it is given the data of the node, which the system text
is made of, and the handoff, and answers or fails. -/
abbrev ServiceAgent : Type :=
  Nat → AgentDescriptor → Node → String → Except InvokeError WorkflowStep

/-- `invoke`, by which the service runs an agent at a node. -/
def serviceInvoke (agent : ServiceAgent) : Invoker InvokeError :=
  fun n node handoff =>
    match descriptorOf node with
    | .error error => .error error
    | .ok descriptor =>
        if joinable node then agent n descriptor node handoff else .error .notJoinable

/-- The descriptor keeps to the policy. -/
def Granted (node : Node) (descriptor : AgentDescriptor) : Prop :=
  Permitted (node.isController = true) descriptor.role descriptor.toolPermissions

/-- **Least privilege.**  Whatever the agents do, every node that a run invokes is given
a descriptor that keeps to the policy. -/
def LeastPrivilege (definition : Object) : Prop :=
  ∃ document, readDocument definition = some document ∧
    ∀ message (agent : ServiceAgent),
      ∀ node ∈ (engineRun document message (serviceInvoke agent)
          document.invocationBound).1.visited,
        ∃ descriptor, descriptorOf node = .ok descriptor ∧ Granted node descriptor

/-- The data of the node would do for an agent: the tools that it lists are registered,
and permitted to the role that it names. -/
def Passes (node : Node) : Prop :=
  ∃ data names role, node.data = some data ∧
    itemsAt "tools" data = some (names.map Json.string) ∧
    workflowAgentRole data = some role ∧ Permitted (controls data = true) role names

/-- The service gets through to the agent at the node. -/
def served (node : Node) : Bool := (descriptorOf node).toOption.isSome && joinable node

/-- Every node that can be reached and invoked is an agent, or its data passes as that of
one. -/
def KeepsPolicy (definition : Object) : Prop :=
  ∃ document, readDocument definition = some document ∧
    ∀ node counts, Reaches document served node counts → node.invoked = true →
      node.ofType "agent" = true ∨ Passes node

variable {document : Document} {node : Node} {s t : EngineState}
  {answers : List WorkflowStep} {message : String} {counts : List Key}

theorem data_eq_some {data : Object} : node.data = some data ↔
    ∃ value, node.fields.get "data" = some value ∧ asObject value = some data := by
  simp [Node.data, Option.bind_eq_some_iff]

theorem isController_of_data {data : Object} (h : node.data = some data) :
    node.isController = controls data := by
  simp [Node.isController, h]

theorem toolNames_registered {names : List String}
    (h : ∀ name ∈ names, name ∈ workflowToolCatalog) :
    (names.map Json.string).mapM toolName = some names := by
  induction names with
  | nil => rfl
  | cons name names ih =>
      have hname : name ≠ "" := by
        rintro rfl
        exact absurd (h "" (by simp)) (by decide)
      simp [toolName, Json.text, hname, ih fun n hn => h n (by simp [hn])]

/-- The tools of a descriptor are the texts that the data lists. -/
theorem toolNames_eq {tools : List Json} {names : List String}
    (h : tools.mapM toolName = some names) : tools = names.map Json.string := by
  induction tools generalizing names with
  | nil =>
      cases h
      rfl
  | cons tool tools ih =>
      simp only [List.mapM_cons, Option.bind_eq_bind, Option.bind_eq_some_iff] at h
      obtain ⟨name, hname, rest, hrest, hnames⟩ := h
      cases hnames
      rw [ih hrest, List.map_cons]
      unfold toolName at hname
      split at hname
      · cases hname
      · rename_i text htext
        split at hname
        · cases hname
        · cases hname
          rw [Json.text_eq_some.mp htext]

/-- **What passes is granted**, and nothing else is. -/
theorem passes_iff : Passes node ↔
    ∃ descriptor, descriptorOf node = .ok descriptor ∧ Granted node descriptor := by
  constructor
  · intro h
    obtain ⟨data, names, role, hdata, htools, hrole, hpermitted⟩ := h
    obtain ⟨value, hvalue, hobject⟩ := data_eq_some.mp hdata
    have hnames := toolNames_registered hpermitted.registered
    refine ⟨⟨"workflow-" ++ node.id, role, names⟩, ?_, ?_⟩
    · simp [descriptorOf, hvalue, hobject, htools, hrole, hnames]
    · unfold Granted
      rw [isController_of_data hdata]
      exact hpermitted
  · intro h
    obtain ⟨descriptor, hdescriptor, hgranted⟩ := h
    unfold descriptorOf at hdescriptor
    split at hdescriptor
    · cases hdescriptor
    · rename_i value hvalue
      split at hdescriptor
      · cases hdescriptor
      · rename_i data hobject
        have hdata : node.data = some data := data_eq_some.mpr ⟨value, hvalue, hobject⟩
        split at hdescriptor
        · cases hdescriptor
        · rename_i tools htools
          split at hdescriptor
          · cases hdescriptor
          · rename_i role hrole
            split at hdescriptor
            · cases hdescriptor
            · rename_i names hnames
              cases hdescriptor
              unfold Granted at hgranted
              rw [isController_of_data hdata] at hgranted
              exact ⟨data, names, role, hdata, toolNames_eq hnames ▸ htools, hrole,
                hgranted⟩

theorem names_of_registered {tools : List Json}
    (h : tools.all (isOneOf workflowToolCatalog) = true) :
    ∃ names : List String, tools = names.map Json.string ∧
      ∀ name ∈ names, name ∈ workflowToolCatalog := by
  induction tools with
  | nil => exact ⟨[], rfl, by simp⟩
  | cons tool tools ih =>
      simp only [List.all_cons, Bool.and_eq_true] at h
      obtain ⟨name, hname, htool⟩ := isOneOf_iff.mp h.1
      obtain ⟨names, htools, hnames⟩ := ih h.2
      refine ⟨name :: names, by simp [htool, htools], ?_⟩
      intro other hother
      rcases List.mem_cons.mp hother with rfl | hother
      · exact hname
      · exact hnames other hother

/-- **A checked agent passes.** -/
theorem passes_of_agent (hagent : node.ofType "agent" = true)
    (h : agentError node = none) : Passes node := by
  unfold agentError at h
  rw [if_pos hagent] at h
  split at h
  · cases h
  · rename_i data hdata
    split at h
    · rename_i tools htools
      split at h
      · rename_i hcatalog
        obtain ⟨names, rfl, hnames⟩ := names_of_registered hcatalog
        obtain ⟨role, hrole, hpermitted⟩ := permitted_of_checked hnames h
        refine ⟨data, names, role, hdata, ?_, hrole, hpermitted⟩
        unfold itemsAt
        cases hget : data.get "tools" with
        | none =>
            rw [hget, Option.getD_none] at htools
            simp only [Json.list.injEq] at htools
            rw [← htools]
        | some value =>
            rw [hget, Option.getD_some] at htools
            rw [htools]
            rfl
      · cases h
    · cases h

theorem served_of_answer {agent : ServiceAgent} {n : Nat} {handoff : String}
    {answer : WorkflowStep} (h : serviceInvoke agent n node handoff = .ok answer) :
    served node = true := by
  unfold serviceInvoke at h
  split at h
  · cases h
  · rename_i descriptor hdescriptor
    split at h
    · rename_i hjoin
      simp [served, hdescriptor, hjoin, Except.toOption]
    · cases h

/-- An agent that gives the answers one after the other. -/
def answering (answers : List WorkflowStep) : ServiceAgent :=
  fun n _ _ _ => .ok ((answers[n]?).getD { handoff := "" })

theorem answer_of_served {i : Nat} {handoff : String} {answer : WorkflowStep}
    (h : served node = true) (hanswer : answers[i]? = some answer) :
    serviceInvoke (answering answers) i node handoff = .ok answer := by
  simp only [served, Bool.and_eq_true] at h
  unfold serviceInvoke
  split
  · rename_i error herror
    simp [herror, Except.toOption] at h
  · simp [h.2, answering, hanswer]

/-- The nodes that a run of the service invokes are reachable ones. -/
theorem invoked_reached (hdocument : Accepted document) {agent : ServiceAgent}
    (h : node ∈ (engineRun document message (serviceInvoke agent)
      document.invocationBound).1.visited) :
    ∃ counts, Reaches document served node counts ∧ node.invoked = true := by
  unfold engineRun at h
  split at h
  · cases h
  · rename_i s hstart
    obtain ⟨answers, t, hexec, hend⟩ :=
      drive_spec document served (serviceInvoke agent) (fun _ _ _ _ => served_of_answer)
        document.invocationBound s
    have hvisited := visited_reached hdocument hstart hexec
    rcases hend with ⟨-, hend⟩ | ⟨-, hend⟩
    · rw [hend] at h
      exact hvisited node h
    · have hcurrent : t.current.invoked = true → node ∈ (t.past.invoke t.current).visited →
          ∃ counts, Reaches document served node counts ∧ node.invoked = true := by
        intro hinvoked hnode
        rcases List.mem_append.mp hnode with hnode | hnode
        · exact hvisited node hnode
        · rw [List.mem_singleton.mp hnode]
          exact ⟨_, reaches_of_exec hdocument hstart hexec, hinvoked⟩
      generalize drive document (serviceInvoke agent) document.invocationBound s = run
        at h hend
      cases hend with
      | untyped _ => exact hvisited node h
      | result _ => exact hvisited node h
      | failed hinvoked _ => exact hcurrent hinvoked h
      | raised hinvoked _ _ => exact hcurrent hinvoked h

theorem exists_invoked (hdocument : Accepted document) (message : String)
    (h : Reaches document served node counts) (hinvoked : node.invoked = true) :
    ∃ agent, node ∈ (engineRun document message (serviceInvoke agent)
      document.invocationBound).1.visited := by
  have hentry : ∃ s, start document message = .ok s := by
    clear hinvoked
    induction h with
    | entry hentry hnode => exact ⟨_, start_eq_ok.mpr ⟨_, _, hentry, hnode, rfl⟩⟩
    | follow _ _ _ _ _ _ ih => exact ih
  obtain ⟨s, hstart⟩ := hentry
  obtain ⟨answers, t, hexec, rfl, -⟩ := exec_of_reaches hdocument hstart h
  obtain ⟨fuel, hrun⟩ := run_of_exec hdocument hstart hexec
    (serviceInvoke (answering answers)) fun _ _ _ _ => answer_of_served
  refine ⟨answering answers, ?_⟩
  rw [hrun]
  exact current_visited _ fuel hinvoked

/-- **Least privilege.**  A definition without an error keeps to it exactly if the nodes
of another type that can be reached pass like agents. -/
theorem leastPrivilege_iff (definition : Object) (h : documentError definition = none) :
    LeastPrivilege definition ↔ KeepsPolicy definition := by
  obtain ⟨document, hread, hdocument⟩ := accepted h
  constructor
  · intro hleast
    obtain ⟨other, hother, hgranted⟩ := hleast
    rw [hread, Option.some.injEq] at hother
    subst hother
    refine ⟨document, hread, ?_⟩
    intro node counts hreach hinvoked
    obtain ⟨agent, hvisited⟩ := exists_invoked hdocument "" hreach hinvoked
    exact .inr (passes_iff.mpr (hgranted "" agent node hvisited))
  · intro hkeeps
    obtain ⟨other, hother, hpolicy⟩ := hkeeps
    rw [hread, Option.some.injEq] at hother
    subst hother
    refine ⟨document, hread, ?_⟩
    intro message agent node hnode
    obtain ⟨counts, hreach, hinvoked⟩ := invoked_reached hdocument hnode
    refine passes_iff.mp ?_
    rcases hpolicy node counts hreach hinvoked with hagent | hpasses
    · refine passes_of_agent hagent (hdocument.agents node ?_)
      cases hreach with
      | entry _ hnode => exact (mem_of_node hnode).1
      | follow _ _ _ _ _ hnext => exact (mem_of_node hnext).1
    · exact hpasses

/-- The template keeps to least privilege. -/
theorem newWorkflow_leastPrivilege : LeastPrivilege (newWorkflow "trigger") := by
  refine (leastPrivilege_iff (newWorkflow "trigger") (by decide +kernel)).mpr ⟨_, rfl, ?_⟩
  intro node counts hreach hinvoked
  rcases newWorkflow_reaches rfl hreach with rfl | rfl
  · exact .inl rfl
  · exact absurd hinvoked (by decide +kernel)

/-- A node of another type than "agent" whose data names a data tool. -/
def exportNode : Node where
  id := "export"
  fields :=
    [("id", .string "export"), ("type", .string "tool"),
      ("data", .object
        [("role", .string "custom"), ("tools", .list [.string "data_query"])])]

/-- The template with that node between the controller and the result. -/
def exportWorkflow : Object :=
  [("nodes", .list
      [.object [("id", .string "trigger"), ("type", .string "trigger")],
        .object newController.fields, .object exportNode.fields,
        .object newResult.fields]),
    ("edges", .list
      [.object [("source", .string "trigger"), ("target", .string "controller")],
        .object [("source", .string "controller"), ("target", .string "export")],
        .object [("source", .string "export"), ("target", .string "result")]])]

/-- It is accepted, and every run of it gives a conversational agent the data query. -/
theorem export_overprivileged :
    documentError exportWorkflow = none ∧ ¬LeastPrivilege exportWorkflow := by
  refine ⟨by decide +kernel, ?_⟩
  intro h
  obtain ⟨document, hread, hgranted⟩ := h
  cases hread
  obtain ⟨descriptor, hdescriptor, hpolicy⟩ := hgranted ""
    (fun _ _ _ _ => .ok { handoff := "" }) exportNode
    (List.mem_cons_of_mem newController List.mem_cons_self)
  cases hdescriptor
  have := hpolicy.dataTools "data_query" (by decide) (by decide)
  exact absurd this (by decide)

end Zentra.Workflow
