import Zentra.StepTrace
import Zentra.WorkflowDocument

/-!
# The engine of a published workflow

The engine starts behind the edge that leaves the node called "trigger" and invokes one
node after the other until it comes to a result node.  What an invocation answers is up
to the agent; which edge is followed is up to the document.

* `drive_spec` — a run is an execution of turns and one way to stop;
* `drive_of_exec` — every execution of turns is the start of a run of an agent that
  gives the answers.
-/

open PythonJson EdgeWalks StepTrace

namespace Zentra.Workflow

/-- `WorkflowStep`: what an invocation answers. -/
structure WorkflowStep where
  handoff : String
  route : Option String := none

structure WorkflowResult where
  output : String
  nodes : List String
  routes : List Json

inductive EngineError
  /-- A `KeyError`. -/
  | missing (key : String)
  /-- An `AttributeError`: data that is no object has no `get`. -/
  | noGet
  /-- A `TypeError`: a list or an object is no key. -/
  | unhashable
  /-- A `TypeError`: the limit is no number. -/
  | notComparable
  /-- `{source} has no declared outgoing route`. -/
  | noOutgoing (source : String)
  /-- `only the controller may choose between Workflow routes`. -/
  | onlyController
  /-- `{id} must choose a declared route`. -/
  | mustChoose (id : String)
  /-- `{id} chose undeclared route {route!r}`. -/
  | undeclared (id : String) (route : String)
  /-- `loop limit reached for route {route!r}`. -/
  | loopLimit (route : Json)

/-- What happened so far: the nodes that were invoked (`nodes`, by their ids), the
routes, the edges that were followed, and the answers. -/
structure History where
  visited : List Node := []
  routes : List Json := []
  followed : List Edge := []
  answers : List WorkflowStep := []

/-- The variables of the loop.  A key stands among the counted ones as often as
`loop_counts` says. -/
structure EngineState where
  current : Node
  handoff : String
  loopCounts : List Key
  past : History

/-- How a run ends: with a result, with an error of the engine or of an invocation, or
not within the bound on its turns. -/
inductive Ending (ε : Type)
  | returned (result : WorkflowResult)
  | raised (error : EngineError)
  | failed (error : ε)
  | unfinished

/-- `fields.get("data", {})` as far as it has a `get`. -/
def dataOf (fields : Object) : Option Object :=
  match fields.get "data" with
  | none => some []
  | some value => asObject value

/-- `candidate.get("data", {}).get("route", "success")`. -/
def Edge.route (edge : Edge) : Option Json :=
  (dataOf edge.fields).map fun data => (data.get "route").getD (.string "success")

/-- `current.get("data", {}).get("controller")` counts as true. -/
def Node.mayChoose (node : Node) : Option Bool := (dataOf node.fields).map controls

def Node.invoked (node : Node) : Bool :=
  (node.fields.get "type").any fun type => decide (type.text ≠ some "result")

/-- The edge behind which every run starts. -/
def Document.entry (document : Document) : Option Edge :=
  document.edges.find? fun edge => decide (edge.source = "trigger")

/-- The first edge whose route is the text. -/
def firstOn (route : String) : List Edge → Except EngineError (Option Edge)
  | [] => .ok none
  | edge :: edges =>
      match edge.route with
      | none => .error .noGet
      | some declared =>
          if declared.text = some route then .ok (some edge) else firstOn route edges

def namedEdge (node : Node) (answer : Option String) (outgoing : List Edge) :
    Except EngineError (Edge × Json) :=
  match answer with
  | none => .error (.mustChoose node.id)
  | some route =>
      if route = "" then .error (.mustChoose node.id)
      else
        match firstOn route outgoing with
        | .error error => .error error
        | .ok none => .error (.undeclared node.id route)
        | .ok (some edge) => .ok (edge, .string route)

/-- The edge to follow and its route.  A single edge is followed whatever the answer
says: the search for its own route finds it again. -/
def chooseEdge (node : Node) (answer : Option String) :
    List Edge → Except EngineError (Edge × Json)
  | [] => namedEdge node answer []
  | [edge] =>
      match edge.route with
      | none => .error .noGet
      | some route =>
          if route.truthy then .ok (edge, route) else .error (.mustChoose node.id)
  | outgoing =>
      match node.mayChoose with
      | none => .error .noGet
      | some false => .error .onlyController
      | some true => namedEdge node answer outgoing

def crossLoop (edge : Edge) (route : Json) (counts : List Key) :
    Except EngineError (List Key) :=
  match dataOf edge.fields with
  | none => .error .noGet
  | some data =>
      if (data.get "is_loop").any Json.truthy then
        match edge.fields.get "id" with
        | none => .error (.missing "id")
        | some id =>
            match id.key with
            | none => .error .unhashable
            | some key =>
                match (data.get "max_iterations").bind Json.number with
                | none => .error .notComparable
                | some limit =>
                    if limit < ((counts.count key + 1 : Nat) : ℚ) then
                      .error (.loopLimit route)
                    else .ok (key :: counts)
      else .ok counts

/-- What happened, with one more invocation. -/
def History.invoke (past : History) (node : Node) : History :=
  { past with visited := past.visited ++ [node] }

/-- What happened, with the answer to the last invocation. -/
def History.answer (past : History) (answer : WorkflowStep) : History :=
  { past with answers := past.answers ++ [answer] }

/-- What happened, with the edge that was followed then. -/
def History.follow (past : History) (edge : Edge) (route : Json) : History :=
  { past with routes := past.routes ++ [route], followed := past.followed ++ [edge] }

/-- The rest of the loop's body, from the answer on. -/
def turn (document : Document) (s : EngineState) (answer : WorkflowStep) :
    Except EngineError EngineState :=
  match chooseEdge s.current answer.route (document.outgoing s.current.id) with
  | .error error => .error error
  | .ok (edge, route) =>
      match crossLoop edge route s.loopCounts with
      | .error error => .error error
      | .ok counts =>
          match document.node edge.target with
          | none => .error (.missing edge.target)
          | some node =>
              .ok { current := node
                    handoff := answer.handoff
                    loopCounts := counts
                    past := ((s.past.invoke s.current).answer answer).follow edge route }

/-- An agent's invocations: the number of those before it, the node, and the
handoff. -/
abbrev Invoker (ε : Type) : Type := Nat → Node → String → Except ε WorkflowStep

variable {ε : Type}

/-- The loop, for a bounded number of turns. -/
def drive (document : Document) (invoke : Invoker ε) :
    Nat → EngineState → History × Ending ε
  | 0, s => (s.past, .unfinished)
  | fuel + 1, s =>
      match s.current.fields.get "type" with
      | none => (s.past, .raised (.missing "type"))
      | some type =>
          if type.text = some "result" then
            (s.past, .returned ⟨s.handoff, s.past.visited.map Node.id, s.past.routes⟩)
          else
            match invoke s.past.visited.length s.current s.handoff with
            | .error error => (s.past.invoke s.current, .failed error)
            | .ok answer =>
                match turn document s answer with
                | .error error =>
                    ((s.past.invoke s.current).answer answer, .raised error)
                | .ok next => drive document invoke fuel next

def start (document : Document) (message : String) : Except EngineError EngineState :=
  match document.entry with
  | none => .error (.noOutgoing "trigger")
  | some edge =>
      match document.node edge.target with
      | none => .error (.missing edge.target)
      | some node =>
          .ok { current := node
                handoff := message
                loopCounts := []
                past := { followed := [edge] } }

/-- `WorkflowEngine.run`. -/
def engineRun (document : Document) (message : String) (invoke : Invoker ε)
    (fuel : Nat) : History × Ending ε :=
  match start document message with
  | .error error => ({}, .raised error)
  | .ok s => drive document invoke fuel s

/-- A turn after an answer, at the nodes that `can` answer. -/
def step (document : Document) (can : Node → Bool) (s : EngineState)
    (answer : WorkflowStep) : Option EngineState :=
  if s.current.invoked && can s.current then (turn document s answer).toOption else none

/-- The ways in which a run can stop. -/
inductive Stops (document : Document) (invoke : Invoker ε) (s : EngineState) :
    History × Ending ε → Prop
  | untyped : s.current.fields.get "type" = none →
      Stops document invoke s (s.past, .raised (.missing "type"))
  | result : s.current.ofType "result" = true →
      Stops document invoke s
        (s.past, .returned ⟨s.handoff, s.past.visited.map Node.id, s.past.routes⟩)
  | failed {error : ε} : s.current.invoked = true →
      invoke s.past.visited.length s.current s.handoff = .error error →
      Stops document invoke s (s.past.invoke s.current, .failed error)
  | raised {error : EngineError} {answer : WorkflowStep} : s.current.invoked = true →
      invoke s.past.visited.length s.current s.handoff = .ok answer →
      turn document s answer = .error error →
      Stops document invoke s
        ((s.past.invoke s.current).answer answer, .raised error)

variable {document : Document} {can : Node → Bool} {invoke : Invoker ε}
  {s t : EngineState} {fuel : Nat} {answers : List WorkflowStep} {answer : WorkflowStep}

theorem step_eq_some : step document can s answer = some t ↔
    s.current.invoked = true ∧ can s.current = true ∧ turn document s answer = .ok t := by
  unfold step
  split
  · rename_i h
    rw [Bool.and_eq_true] at h
    cases turn document s answer <;> simp [h, Except.toOption]
  · rename_i h
    simp only [Bool.and_eq_true] at h
    simp only [reduceCtorEq, false_iff]
    intro hstep
    exact h ⟨hstep.1, hstep.2.1⟩

/-- **A run** is an execution of turns; where it stops before its bound, it stops in one
of the ways. -/
theorem drive_spec (document : Document) (can : Node → Bool) (invoke : Invoker ε)
    (hcan : ∀ n node text answer, invoke n node text = .ok answer → can node = true)
    (fuel : Nat) (s : EngineState) :
    ∃ answers t, Exec (step document can) s answers t ∧
      (answers.length = fuel ∧ drive document invoke fuel s = (t.past, .unfinished) ∨
        answers.length < fuel ∧ Stops document invoke t (drive document invoke fuel s)) := by
  induction fuel generalizing s with
  | zero => exact ⟨[], s, .nil, .inl ⟨rfl, rfl⟩⟩
  | succ fuel ih =>
      rw [drive]
      cases htype : s.current.fields.get "type" with
      | none => exact ⟨[], s, .nil, .inr ⟨by simp, .untyped htype⟩⟩
      | some type =>
          by_cases hresult : type.text = some "result"
          · refine ⟨[], s, .nil, .inr ⟨by simp, ?_⟩⟩
            simp only [hresult, if_true]
            exact .result (by simp [Node.ofType, htype, hresult])
          · have hinvoked : s.current.invoked = true := by
              simp [Node.invoked, htype, hresult]
            simp only [hresult, if_false]
            cases hanswer : invoke s.past.visited.length s.current s.handoff with
            | error error => exact ⟨[], s, .nil, .inr ⟨by simp, .failed hinvoked hanswer⟩⟩
            | ok answer =>
                cases hturn : turn document s answer with
                | error error =>
                    simp only [hturn]
                    exact ⟨[], s, .nil, .inr ⟨by simp, .raised hinvoked hanswer hturn⟩⟩
                | ok next =>
                    simp only [hturn]
                    obtain ⟨answers, t, hexec, hend⟩ := ih next
                    have hstep : step document can s answer = some next :=
                      step_eq_some.mpr ⟨hinvoked, hcan _ _ _ _ hanswer, hturn⟩
                    refine ⟨answer :: answers, t, hexec.cons hstep, ?_⟩
                    rcases hend with ⟨hlength, hend⟩ | ⟨hlength, hend⟩
                    · exact .inl ⟨by simp [hlength], hend⟩
                    · exact .inr ⟨by simpa using hlength, hend⟩

theorem visited_of_turn (h : turn document s answer = .ok t) :
    t.past.visited = s.past.visited ++ [s.current] := by
  unfold turn at h
  split at h
  · cases h
  · split at h
    · cases h
    · split at h
      · cases h
      · cases h
        rfl

/-- **Every execution of turns** is how the run of an agent starts that gives its
answers. -/
theorem drive_of_exec (h : Exec (step document can) s answers t)
    (hinvoke : ∀ i node text answer, can node = true → answers[i]? = some answer →
      invoke (s.past.visited.length + i) node text = .ok answer) (fuel : Nat) :
    drive document invoke (answers.length + fuel) s = drive document invoke fuel t := by
  have hrun := h.run_eq
  clear h
  induction answers generalizing s with
  | nil =>
      cases hrun
      simp
  | cons answer answers ih =>
      rw [StepTrace.run] at hrun
      split at hrun
      · rename_i next hstep
        obtain ⟨hinvoked, hcan, hturn⟩ := step_eq_some.mp hstep
        have hanswer := hinvoke 0 s.current s.handoff answer hcan (by simp)
        have hrest := ih (s := next) (fun i node text a hnode ha => by
          rw [visited_of_turn hturn]
          have := hinvoke (i + 1) node text a hnode (by simpa using ha)
          simpa [Nat.add_assoc, Nat.add_comm 1 i] using this) hrun
        rw [show (answer :: answers).length + fuel = answers.length + fuel + 1 by
          simp only [List.length_cons]; omega, drive]
        simp only [Node.invoked, Option.any_eq_true, decide_eq_true_eq] at hinvoked
        obtain ⟨type, htype, hresult⟩ := hinvoked
        simp only [Nat.add_zero] at hanswer
        simp only [htype, hresult, if_false, hanswer, hturn, hrest]
      · cases hrun

end Zentra.Workflow
