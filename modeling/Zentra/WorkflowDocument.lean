import Zentra.EdgeWalks
import Zentra.WorkflowPolicy

/-!
# The check of a workflow document

A stored definition is any JSON object.  `documentError` reads it and gives the first
thing that is wrong with it; a definition without an error may be published and run.

* `Accepted` — what is known of a document without an error (`accepted`);
* `plain_walk_nodup`, `plain_walk_lt` — the search is complete: in an accepted document
  every walk along edges that are no loop edges visits distinct nodes, and is therefore
  shorter than the number of nodes.
-/

open PythonJson EdgeWalks

namespace Zentra.Workflow

structure Node where
  id : String
  fields : Object

/-- An edge: an object with its two ends. -/
structure Edge where
  source : String
  target : String
  fields : Object

/-- The nodes and edges of a definition. -/
structure Document where
  nodes : List Node
  edges : List Edge

def asObject : Json → Option Object
  | .object members => some members
  | _ => none

/-- An object whose id is a text that is not empty. -/
def readNode (item : Json) : Option Node :=
  match asObject item with
  | none => none
  | some fields =>
      match (fields.get "id").bind Json.text with
      | none => none
      | some id => if id = "" then none else some ⟨id, fields⟩

def readEdge (item : Json) : Option Edge :=
  match asObject item with
  | none => none
  | some fields =>
      match (fields.get "source").bind Json.text, (fields.get "target").bind Json.text with
      | some source, some target => some ⟨source, target, fields⟩
      | _, _ => none

/-- What the definition says, as far as it can be read. -/
def readDocument (definition : Object) : Option Document :=
  match definition.get "nodes", definition.get "edges" with
  | some (.list nodes), some (.list edges) =>
      match nodes.mapM readNode, edges.mapM readEdge with
      | some nodes, some edges => some ⟨nodes, edges⟩
      | _, _ => none
  | _, _ => none

namespace Node

/-- `node.get("type") == name`. -/
def ofType (name : String) (node : Node) : Bool :=
  (node.fields.get "type").any fun type => decide (type.text = some name)

/-- The data of the node, if it is an object. -/
def data (node : Node) : Option Object := (node.fields.get "data").bind asObject

def isController (node : Node) : Bool := node.data.any controls

end Node

namespace Edge

/-- The data of the edge, if it is an object. -/
def data (edge : Edge) : Option Object := (edge.fields.get "data").bind asObject

def isLoop (edge : Edge) : Bool :=
  edge.data.any fun data => (data.get "is_loop").any Json.truthy

/-- `max_iterations`, if it is an integer. -/
def limit (edge : Edge) : Option ℤ :=
  edge.data.bind fun data => (data.get "max_iterations").bind Json.isInt

end Edge

namespace Document

def ids (document : Document) : List String := document.nodes.map Node.id

def outgoing (document : Document) (id : String) : List Edge :=
  document.edges.filter fun edge => decide (edge.source = id)

def node (document : Document) (id : String) : Option Node :=
  document.nodes.find? fun node => decide (node.id = id)

end Document

/-- What is wrong with the data of an agent. -/
def agentError (node : Node) : Option String :=
  if node.ofType "agent" then
    match node.data with
    | none => some "Every Workflow agent needs object data"
    | some data =>
        match (data.get "tools").getD (.list []) with
        | .list tools =>
            if tools.all (isOneOf workflowToolCatalog) then workflowRoleError data tools
            else some "Workflow agents may use only registered tools"
        | _ => some "Workflow agents may use only registered tools"
  else none

def nodesError (nodes : List Node) : Option String :=
  if ¬(nodes.map Node.id).Nodup then some "Workflow node ids must be unique"
  else if nodes.all fun node => !node.ofType "trigger" then
    some "A Workflow needs a trigger node"
  else if nodes.all fun node => !node.ofType "result" then
    some "A Workflow needs a result node"
  else if (nodes.filter Node.isController).length ≠ 1 then
    some "A Workflow needs exactly one controller"
  else nodes.findSome? agentError

/-- What is wrong with an edge between nodes of these ids. -/
def edgeError (ids : List String) (item : Json) : Option String :=
  match readEdge item with
  | none => some "Every Workflow edge must connect existing nodes"
  | some edge =>
      if edge.source ∉ ids ∨ edge.target ∉ ids then
        some "Every Workflow edge must connect existing nodes"
      else if edge.isLoop && !edge.limit.any fun limit => decide (1 ≤ limit) then
        some "A loop edge needs a positive max_iterations value"
      else none

/-- One pass over the edges adds the targets of those that leave what is reachable. -/
def expand (edges : List Edge) (reachable : List String) : List String :=
  edges.foldl
    (fun reachable edge =>
      if edge.source ∈ reachable ∧ edge.target ∉ reachable then
        reachable ++ [edge.target]
      else reachable)
    reachable

/-- Passes until one adds nothing; each of the others adds a node. -/
def closure (edges : List Edge) : Nat → List String → List String
  | 0, reachable => reachable
  | fuel + 1, reachable =>
      let expanded := expand edges reachable
      if expanded.length = reachable.length then reachable
      else closure edges fuel expanded

/-- `has_unbounded_cycle`, with a bound on the depth that the distinct nodes of a path
do not reach: some way on from the path closes a cycle without a loop edge. -/
def hasUnboundedCycle (document : Document) :
    Nat → String → List String → List Edge → Bool
  | 0, _, _, _ => false
  | fuel + 1, id, pathNodes, pathEdges =>
      if id ∈ pathNodes then false
      else
        (document.outgoing id).any fun edge =>
          if edge.target ∈ pathNodes ++ [id] then
            let start := (pathNodes ++ [id]).idxOf edge.target
            !(pathEdges.drop start ++ [edge]).any Edge.isLoop
          else
            hasUnboundedCycle document fuel edge.target (pathNodes ++ [id])
              (pathEdges ++ [edge])

/-- What is wrong with the ways through the document. -/
def pathsError (document : Document) : Option String :=
  let triggers := (document.nodes.filter (Node.ofType "trigger")).map Node.id
  let reachable := closure document.edges document.nodes.length triggers
  if document.nodes.all fun node =>
      !(node.ofType "result" && decide (node.id ∈ reachable)) then
    some "A Workflow needs a terminal path from its trigger"
  else if document.nodes.any fun node =>
      node.ofType "agent" && decide (1 < (document.outgoing node.id).length) &&
        !node.isController then
    some "Only the controller may choose between Workflow routes"
  else if document.nodes.any fun node =>
      hasUnboundedCycle document (document.nodes.length + 1) node.id [] [] then
    some "Every Workflow cycle needs bounded loop metadata"
  else none

def documentError (definition : Object) : Option String :=
  match definition.get "nodes", definition.get "edges" with
  | some (.list nodeItems), some (.list edgeItems) =>
      match nodeItems.mapM readNode with
      | none => some "Every Workflow node needs an id"
      | some nodes =>
          (nodesError nodes).or <|
            (edgeItems.findSome? (edgeError (nodes.map Node.id))).or <|
              -- edges without an error can be read
              (edgeItems.mapM readEdge).bind fun edges => pathsError ⟨nodes, edges⟩
  | _, _ => some "A Workflow needs nodes and edges"

/-- The agent of `NEW_WORKFLOW_DEFINITION`. -/
def newController : Node where
  id := "controller"
  fields :=
    [("id", .string "controller"), ("type", .string "agent"),
      ("data", .object
        [("label", .string "Controller"), ("role", .string "controller"),
          ("controller", .bool true),
          ("responsibility", .string "Chooses the next declared route."),
          ("skills", .list []), ("tools", .list [])])]

/-- The result node of `NEW_WORKFLOW_DEFINITION`. -/
def newResult : Node where
  id := "result"
  fields :=
    [("id", .string "result"), ("type", .string "result"),
      ("data", .object
        [("label", .string "Response"),
          ("responsibility", .string "Returns the workflow response.")])]

/-- `NEW_WORKFLOW_DEFINITION`, less the positions, with the id of its trigger. -/
def newWorkflow (trigger : String) : Object :=
  [("nodes", .list
      [.object
          [("id", .string trigger), ("type", .string "trigger"),
            ("data", .object
              [("label", .string "Request"),
                ("responsibility", .string "Starts this workflow.")])],
        .object newController.fields, .object newResult.fields]),
    ("edges", .list
      [.object
          [("id", .string "trigger-controller"), ("source", .string trigger),
            ("target", .string "controller"),
            ("data", .object [("route", .string "success")])],
        .object
          [("id", .string "controller-result"), ("source", .string "controller"),
            ("target", .string "result"),
            ("data", .object [("route", .string "success")])]])]

example : documentError (newWorkflow "trigger") = none := by decide +kernel

/-- What is known of a document without an error. -/
structure Accepted (document : Document) : Prop where
  distinct : document.ids.Nodup
  oneController : (document.nodes.filter Node.isController).length = 1
  agents : ∀ node ∈ document.nodes, agentError node = none
  connected : ∀ edge ∈ document.edges,
    edge.source ∈ document.ids ∧ edge.target ∈ document.ids
  limited : ∀ edge ∈ document.edges, edge.isLoop = true →
    ∃ limit, edge.limit = some limit ∧ 1 ≤ limit
  choices : ∀ node ∈ document.nodes, node.ofType "agent" = true →
    1 < (document.outgoing node.id).length → node.isController = true
  bounded : ∀ node ∈ document.nodes,
    hasUnboundedCycle document (document.nodes.length + 1) node.id [] [] = false

theorem nodes_checked {nodes : List Node} (h : nodesError nodes = none) :
    (nodes.map Node.id).Nodup ∧ (nodes.filter Node.isController).length = 1 ∧
      ∀ node ∈ nodes, agentError node = none := by
  unfold nodesError at h
  split at h
  · cases h
  · rename_i hdistinct
    split at h
    · cases h
    · split at h
      · cases h
      · split at h
        · cases h
        · rename_i hcontroller
          refine ⟨not_not.mp hdistinct, not_not.mp hcontroller, ?_⟩
          exact List.findSome?_eq_none_iff.mp h

theorem edge_checked {ids : List String} {item : Json} (h : edgeError ids item = none) :
    ∃ edge, readEdge item = some edge ∧ edge.source ∈ ids ∧ edge.target ∈ ids ∧
      (edge.isLoop = true → ∃ limit, edge.limit = some limit ∧ 1 ≤ limit) := by
  unfold edgeError at h
  split at h
  · cases h
  · rename_i edge hread
    split at h
    · cases h
    · rename_i hends
      split at h
      · cases h
      · rename_i hlimit
        simp only [not_or, not_not] at hends
        refine ⟨edge, hread, hends.1, hends.2, ?_⟩
        intro hloop
        simpa [hloop, Option.any_eq_true] using hlimit

/-- Edges without an error can be read, and each of them was checked. -/
theorem edges_checked {ids : List String} {items : List Json}
    (h : items.findSome? (edgeError ids) = none) :
    ∃ edges, items.mapM readEdge = some edges ∧ ∀ edge ∈ edges,
      edge.source ∈ ids ∧ edge.target ∈ ids ∧
        (edge.isLoop = true → ∃ limit, edge.limit = some limit ∧ 1 ≤ limit) := by
  rw [List.findSome?_eq_none_iff] at h
  induction items with
  | nil => exact ⟨[], rfl, by simp⟩
  | cons item items ih =>
      obtain ⟨edge, hread, hedge⟩ := edge_checked (h item (by simp))
      obtain ⟨edges, hreads, hedges⟩ := ih fun item hitem => h item (by simp [hitem])
      refine ⟨edge :: edges, by simp [hread, hreads], ?_⟩
      intro e he
      rcases List.mem_cons.mp he with rfl | he
      · exact hedge
      · exact hedges e he

theorem paths_checked {document : Document} (h : pathsError document = none) :
    (∀ node ∈ document.nodes, node.ofType "agent" = true →
      1 < (document.outgoing node.id).length → node.isController = true) ∧
    ∀ node ∈ document.nodes,
      hasUnboundedCycle document (document.nodes.length + 1) node.id [] [] = false := by
  simp only [pathsError] at h
  split at h
  · cases h
  · split at h
    · cases h
    · rename_i hchoice
      split at h
      · cases h
      · rename_i hcycle
        constructor
        · intro node hnode hagent hmany
          by_contra hcontroller
          refine hchoice (List.any_eq_true.mpr ⟨node, hnode, ?_⟩)
          simpa [hagent, hmany] using hcontroller
        · intro node hnode
          by_contra hfound
          exact hcycle (List.any_eq_true.mpr ⟨node, hnode, by simpa using hfound⟩)

/-- **A definition without an error** can be read, and its document is accepted. -/
theorem accepted {definition : Object} (h : documentError definition = none) :
    ∃ document, readDocument definition = some document ∧ Accepted document := by
  unfold documentError at h
  split at h
  · rename_i nodeItems edgeItems hnodes hedges
    split at h
    · cases h
    · rename_i nodes hread
      simp only [Option.or_eq_none_iff] at h
      obtain ⟨hnodesError, hedgesError, hpaths⟩ := h
      obtain ⟨edges, hreads, hedge⟩ := edges_checked hedgesError
      obtain ⟨hdistinct, hone, hagents⟩ := nodes_checked hnodesError
      obtain ⟨hchoices, hbounded⟩ :=
        @paths_checked ⟨nodes, edges⟩ (by simpa [hreads] using hpaths)
      refine ⟨⟨nodes, edges⟩, by simp [readDocument, hnodes, hedges, hread, hreads], ?_⟩
      exact
        { distinct := hdistinct
          oneController := hone
          agents := hagents
          connected := fun edge h => ⟨(hedge edge h).1, (hedge edge h).2.1⟩
          limited := fun edge h => (hedge edge h).2.2
          choices := hchoices
          bounded := hbounded }
  · cases h

abbrev Document.Walk (document : Document) : String → List Edge → Prop :=
  IsWalk Edge.source Edge.target document.edges

/-- **The search is complete.**  Where it finds nothing from the end of a path without
a loop edge on, no walk without a loop edge returns to a node of the path or of its
own. -/
theorem plain_walk_nodup {document : Document} {fuel : Nat} {id : String}
    {pathNodes : List String} {pathEdges walk : List Edge}
    (hsearch : hasUnboundedCycle document fuel id pathNodes pathEdges = false)
    (hpath : (pathNodes ++ [id]).Nodup) (hpathPlain : ∀ e ∈ pathEdges, e.isLoop = false)
    (hwalk : document.Walk id walk) (hplain : ∀ e ∈ walk, e.isLoop = false)
    (hfuel : walk.length ≤ fuel) :
    (pathNodes ++ id :: walk.map Edge.target).Nodup := by
  induction walk generalizing fuel id pathNodes pathEdges with
  | nil => simpa using hpath
  | cons edge walk ih =>
      obtain ⟨hedge, hsource, hrest⟩ := hwalk
      cases fuel with
      | zero => simp at hfuel
      | succ fuel =>
          have hfresh : id ∉ pathNodes := by
            intro hin
            exact (List.nodup_append.mp hpath).2.2 id hin id (by simp) rfl
          have hplainEdge : edge.isLoop = false := hplain edge (by simp)
          have hplainPath : ∀ e ∈ pathEdges ++ [edge], e.isLoop = false := by
            intro e he
            rcases List.mem_append.mp he with he | he
            · exact hpathPlain e he
            · rwa [List.mem_singleton.mp he]
          have hout : edge ∈ document.outgoing id :=
            List.mem_filter.mpr ⟨hedge, by simpa using hsource⟩
          simp only [hasUnboundedCycle, if_neg hfresh, List.any_eq_false] at hsearch
          have hnext := hsearch edge hout
          split at hnext
          · -- the edge would close a cycle, all of whose edges are of the path
            refine absurd ?_ hnext
            simp only [Bool.not_eq_true', List.any_eq_false, Bool.not_eq_true]
            intro e he
            refine hplainPath e ?_
            rcases List.mem_append.mp he with he | he
            · exact List.mem_append_left _ (List.mem_of_mem_drop he)
            · exact List.mem_append_right _ he
          · rename_i htarget
            have hlonger : (pathNodes ++ [id] ++ [edge.target]).Nodup := by
              refine List.nodup_append.mpr ⟨hpath, by simp, ?_⟩
              intro a ha b hb hab
              rw [List.mem_singleton] at hb
              exact htarget (hb ▸ hab ▸ ha)
            have := ih (by simpa using hnext) hlonger hplainPath hrest
              (fun e he => hplain e (by simp [he])) (by simpa using hfuel)
            simpa using this

/-- In an accepted document a walk from a node without a loop edge is shorter than the
number of nodes. -/
theorem plain_walk_lt {document : Document} (hdocument : Accepted document)
    {id : String} {walk : List Edge} (hid : id ∈ document.ids)
    (hwalk : document.Walk id walk) (hplain : ∀ e ∈ walk, e.isLoop = false) :
    walk.length < document.nodes.length := by
  by_contra hlong
  push Not at hlong
  -- the first edges of a longer walk would visit too many nodes
  obtain ⟨node, hnode, rfl⟩ := List.mem_map.mp hid
  have hsplit := List.take_append_drop document.nodes.length walk
  rw [← hsplit] at hwalk
  have hlength : (walk.take document.nodes.length).length = document.nodes.length :=
    List.length_take_of_le hlong
  have hplainTake : ∀ e ∈ walk.take document.nodes.length, e.isLoop = false :=
    fun e he => hplain e (List.mem_of_mem_take he)
  have hnodup := plain_walk_nodup (hdocument.bounded node hnode) (by simp) (by simp)
    hwalk.of_append.1 hplainTake (by omega)
  have hlt : (walk.take document.nodes.length).length < document.ids.length :=
    IsWalk.length_lt_of_nodup (by simpa using hnodup) hid fun e he =>
      (hdocument.connected e (hwalk.of_append.1.subset he)).2
  simp only [Document.ids, List.length_map] at hlt
  omega

end Zentra.Workflow
