import Zentra.WorkflowEngine

/-!
# What a run can reach

Which nodes a run comes to depends on the answers of the agents.  The document says
which ones it can come to: the edges that a node offers, and the loop edges that can
still be crossed.

* `reaches_of_exec`, `exec_of_reaches` — exactly the ones that executions of turns lead
  to;
* `turns_lt` — every execution is shorter than `invocationBound`, which depends on the
  document alone.
-/

open PythonJson EdgeWalks StepTrace

namespace Zentra.Workflow

/-- Some answer makes the engine follow the edge: it is the only one and its route is
not empty, or the node may choose and the edge is the first one with its route. -/
inductive Offered (node : Node) (outgoing : List Edge) (edge : Edge) (route : Json) : Prop
  | only : outgoing = [edge] → edge.route = some route → route.truthy = true →
      Offered node outgoing edge route
  | named {before after : List Edge} {text : String} :
      outgoing = before ++ edge :: after → 1 < outgoing.length →
      node.mayChoose = some true → text ≠ "" →
      (∀ other ∈ before, ∃ r, other.route = some r ∧ r.text ≠ some text) →
      edge.route = some route → route = .string text →
      Offered node outgoing edge route

/-- Following the edge takes the loop counts from the one list to the other, within the
limit of the edge. -/
inductive Crosses (edge : Edge) (counts : List Key) : List Key → Prop
  | plain : edge.isLoop = false → Crosses edge counts counts
  | loop {key : Key} {limit : ℤ} : edge.isLoop = true →
      (edge.fields.get "id").bind Json.key = some key → edge.limit = some limit →
      (counts.count key : ℤ) + 1 ≤ limit → Crosses edge counts (key :: counts)

variable {node next : Node} {outgoing edges : List Edge} {edge : Edge} {route : Json}
  {answer : Option String} {counts counts' : List Key}

theorem data_of_route (h : edge.route = some route) :
    ∃ data, dataOf edge.fields = some data := by
  obtain ⟨data, hdata, -⟩ := Option.map_eq_some_iff.mp h
  exact ⟨data, hdata⟩

/-- What the check and the engine read of a loop edge is the same. -/
theorem loop_of_data {data : Object} (h : dataOf edge.fields = some data) :
    edge.isLoop = (data.get "is_loop").any Json.truthy ∧
      edge.limit = (data.get "max_iterations").bind Json.isInt := by
  unfold dataOf at h
  cases hread : edge.fields.get "data" with
  | none =>
      simp only [hread, Option.some.injEq] at h
      subst h
      simp [Edge.isLoop, Edge.limit, Edge.data, hread]
  | some value =>
      simp only [hread] at h
      simp [Edge.isLoop, Edge.limit, Edge.data, hread, h]

theorem mayChoose_iff : node.mayChoose = some true ↔ node.isController = true := by
  unfold Node.mayChoose Node.isController Node.data dataOf
  cases node.fields.get "data" with
  | none => simp [controls]
  | some value => cases hobject : asObject value <;> simp [hobject]

theorem firstOn_eq_some {text : String} :
    firstOn text edges = .ok (some edge) ↔
      ∃ before after, edges = before ++ edge :: after ∧
        (∀ other ∈ before, ∃ r, other.route = some r ∧ r.text ≠ some text) ∧
        edge.route = some (.string text) := by
  induction edges with
  | nil => simp [firstOn]
  | cons first rest ih =>
      rw [firstOn]
      cases hroute : first.route with
      | none =>
          simp only [reduceCtorEq, false_iff]
          rintro ⟨_ | ⟨other, before⟩, after, heq, hbefore, hedge⟩
          · simp only [List.nil_append, List.cons.injEq] at heq
            rw [← heq.1, hroute] at hedge
            cases hedge
          · simp only [List.cons_append, List.cons.injEq] at heq
            obtain ⟨r, hr, -⟩ := hbefore other (by simp)
            rw [← heq.1, hroute] at hr
            cases hr
      | some declared =>
          by_cases hfirst : declared.text = some text
          · simp only [hfirst, if_true, Except.ok.injEq, Option.some.injEq]
            constructor
            · intro heq
              subst heq
              refine ⟨[], rest, rfl, by simp, ?_⟩
              rw [hroute, Json.text_eq_some.mp hfirst]
            · rintro ⟨_ | ⟨other, before⟩, after, heq, hbefore, -⟩
              · simp only [List.nil_append, List.cons.injEq] at heq
                exact heq.1
              · simp only [List.cons_append, List.cons.injEq] at heq
                obtain ⟨r, hr, hne⟩ := hbefore other (by simp)
                rw [← heq.1, hroute] at hr
                cases hr
                exact absurd hfirst hne
          · simp only [hfirst, if_false, ih]
            constructor
            · rintro ⟨before, after, heq, hbefore, hedge⟩
              refine ⟨first :: before, after, by simp [heq], ?_, hedge⟩
              intro other hother
              rcases List.mem_cons.mp hother with rfl | hother
              · exact ⟨declared, hroute, hfirst⟩
              · exact hbefore other hother
            · rintro ⟨_ | ⟨other, before⟩, after, heq, hbefore, hedge⟩
              · simp only [List.nil_append, List.cons.injEq] at heq
                rw [← heq.1, hroute] at hedge
                cases hedge
                exact absurd rfl hfirst
              · simp only [List.cons_append, List.cons.injEq] at heq
                exact ⟨before, after, heq.2, fun o ho => hbefore o (by simp [ho]), hedge⟩

theorem namedEdge_eq_ok : namedEdge node answer outgoing = .ok (edge, route) ↔
    ∃ text, answer = some text ∧ text ≠ "" ∧ route = .string text ∧
      firstOn text outgoing = .ok (some edge) := by
  unfold namedEdge
  cases answer with
  | none => simp
  | some text =>
      by_cases hempty : text = ""
      · simp [hempty]
      · simp only [hempty, if_false]
        cases hfirst : firstOn text outgoing with
        | error error => simp [hfirst]
        | ok found =>
            cases found with
            | none => simp [hfirst]
            | some found =>
                simp only [Except.ok.injEq, Prod.mk.injEq, Option.some.injEq,
                  exists_eq_left', hfirst]
                constructor
                · rintro ⟨rfl, rfl⟩
                  exact ⟨hempty, rfl, rfl⟩
                · rintro ⟨-, rfl, rfl⟩
                  exact ⟨rfl, rfl⟩

theorem chooseEdge_singleton {first : Edge} :
    chooseEdge node answer [first] = .ok (edge, route) ↔
      first = edge ∧ first.route = some route ∧ route.truthy = true := by
  simp only [chooseEdge]
  cases hroute : first.route with
  | none => simp
  | some declared =>
      by_cases htruthy : declared.truthy = true
      · simp only [htruthy, if_true, Except.ok.injEq, Prod.mk.injEq, Option.some.injEq]
        constructor
        · rintro ⟨rfl, rfl⟩
          exact ⟨rfl, rfl, htruthy⟩
        · rintro ⟨rfl, rfl, -⟩
          exact ⟨rfl, rfl⟩
      · simp only [htruthy, Bool.false_eq_true, if_false, reduceCtorEq, false_iff]
        rintro ⟨-, heq, htrue⟩
        cases heq
        exact htruthy htrue

theorem chooseEdge_many (hmany : 1 < outgoing.length) :
    chooseEdge node answer outgoing = .ok (edge, route) ↔
      node.mayChoose = some true ∧ namedEdge node answer outgoing = .ok (edge, route) := by
  match outgoing, hmany with
  | first :: second :: rest, _ =>
      simp only [chooseEdge]
      cases hmay : node.mayChoose with
      | none => simp
      | some may => cases may <;> simp

/-- **The engine's choice** is among the edges that the node offers, and each of them is
chosen for some answer. -/
theorem exists_chooseEdge :
    (∃ answer, chooseEdge node answer outgoing = .ok (edge, route)) ↔
      Offered node outgoing edge route := by
  match outgoing with
  | [] =>
      constructor
      · rintro ⟨answer, h⟩
        rw [chooseEdge, namedEdge_eq_ok] at h
        obtain ⟨text, -, -, -, hfirst⟩ := h
        cases hfirst
      · intro h
        cases h with
        | only hsingle => cases hsingle
        | named _ hmany => simp at hmany
  | [first] =>
      simp only [chooseEdge_singleton]
      constructor
      · rintro ⟨-, rfl, hroute, htruthy⟩
        exact .only rfl hroute htruthy
      · intro h
        cases h with
        | only hsingle hroute htruthy =>
            cases hsingle
            exact ⟨none, rfl, hroute, htruthy⟩
        | named _ hmany => simp at hmany
  | first :: second :: rest =>
      have hmany : 1 < (first :: second :: rest).length := by simp
      simp only [chooseEdge_many hmany, namedEdge_eq_ok, firstOn_eq_some]
      constructor
      · rintro ⟨-, hmay, text, -, hne, hroute, before, after, heq, hbefore, hedge⟩
        exact .named heq hmany hmay hne hbefore (by rw [hedge, hroute]) hroute
      · intro h
        cases h with
        | only hsingle => simp at hsingle
        | @named before after text heq _ hmay hne hbefore hedge hroute =>
            exact ⟨some text, hmay, text, rfl, hne, hroute, before, after, heq, hbefore,
              by rw [hedge, hroute]⟩

theorem crosses_loop {limit : ℤ} (hloop : edge.isLoop = true)
    (hlimit : edge.limit = some limit) : Crosses edge counts counts' ↔
      ∃ key, (edge.fields.get "id").bind Json.key = some key ∧
        (counts.count key : ℤ) + 1 ≤ limit ∧ counts' = key :: counts := by
  constructor
  · intro h
    cases h with
    | plain hplain => simp [hloop] at hplain
    | loop _ hkey hread hle =>
        rw [hlimit, Option.some.injEq] at hread
        exact ⟨_, hkey, hread ▸ hle, rfl⟩
  · rintro ⟨key, hkey, hle, rfl⟩
    exact .loop hloop hkey hlimit hle

/-- **The engine's counting**: an edge whose data can be read, and whose limit was
checked, is followed if it can be crossed. -/
theorem crossLoop_eq_ok (hroute : edge.route = some route)
    (hlimit : edge.isLoop = true → ∃ limit, edge.limit = some limit ∧ 1 ≤ limit)
    {label : Json} : crossLoop edge label counts = .ok counts' ↔ Crosses edge counts counts' := by
  obtain ⟨data, hdata⟩ := data_of_route hroute
  obtain ⟨hloop, hint⟩ := loop_of_data hdata
  simp only [crossLoop, hdata, ← hloop]
  cases hisLoop : edge.isLoop with
  | false =>
      simp only [Bool.false_eq_true, if_false, Except.ok.injEq]
      constructor
      · rintro rfl
        exact .plain hisLoop
      · intro h
        cases h with
        | plain => rfl
        | loop htrue => simp [hisLoop] at htrue
  | true =>
      obtain ⟨limit, hread, -⟩ := hlimit hisLoop
      obtain ⟨value, hvalue, hvalueInt⟩ := Option.bind_eq_some_iff.mp (hint ▸ hread)
      have hnumber : (data.get "max_iterations").bind Json.number = some (limit : ℚ) := by
        rw [hvalue]
        exact Json.number_of_isInt hvalueInt
      simp only [if_true, hnumber, crosses_loop hisLoop hread]
      cases edge.fields.get "id" with
      | none => simp
      | some id =>
          cases hkey : id.key with
          | none => simp [hkey]
          | some key =>
              have hcast : (limit : ℚ) < ((counts.count key + 1 : Nat) : ℚ) ↔
                  limit < (counts.count key : ℤ) + 1 := by
                rw [← Int.cast_natCast, Int.cast_lt]
                push_cast
                exact Iff.rfl
              simp only [hcast, Option.bind_some, hkey, Option.some.injEq, exists_eq_left']
              by_cases hover : limit < (counts.count key : ℤ) + 1
              · simp only [hover, if_true, reduceCtorEq, false_iff]
                rintro ⟨hle, -⟩
                omega
              · simp only [hover, if_false, Except.ok.injEq]
                constructor
                · rintro rfl
                  exact ⟨by omega, rfl⟩
                · rintro ⟨-, rfl⟩
                  rfl

/-- A run can come to the node with these loop counts, when the nodes that `can` answer
do so. -/
inductive Reaches (document : Document) (can : Node → Bool) : Node → List Key → Prop
  | entry {edge : Edge} {node : Node} : document.entry = some edge →
      document.node edge.target = some node → Reaches document can node []
  | follow {node next : Node} {edge : Edge} {route : Json} {counts counts' : List Key} :
      Reaches document can node counts → node.invoked = true → can node = true →
      Offered node (document.outgoing node.id) edge route → Crosses edge counts counts' →
      document.node edge.target = some next → Reaches document can next counts'

variable {document : Document} {can : Node → Bool} {s t : EngineState}
  {given : WorkflowStep} {answers : List WorkflowStep} {message : String}

theorem mem_of_outgoing {id : String} (h : edge ∈ document.outgoing id) :
    edge ∈ document.edges ∧ edge.source = id := by
  simpa [Document.outgoing] using h

theorem mem_of_node {id : String} (h : document.node id = some node) :
    node ∈ document.nodes ∧ node.id = id :=
  ⟨List.mem_of_find?_eq_some h, by simpa using List.find?_some h⟩

theorem node_of_mem {id : String} (h : id ∈ document.ids) :
    ∃ node, document.node id = some node := by
  obtain ⟨node, hnode, rfl⟩ := List.mem_map.mp h
  refine Option.isSome_iff_exists.mp ?_
  rw [Document.node, List.find?_isSome]
  exact ⟨node, hnode, by simp⟩

/-- An edge that a node offers leaves it, and its data can be read. -/
theorem Offered.mem (h : Offered node outgoing edge route) :
    edge ∈ outgoing ∧ edge.route = some route := by
  cases h with
  | only hsingle hroute => exact ⟨by simp [hsingle], hroute⟩
  | named heq _ _ _ _ hroute => exact ⟨by simp [heq], hroute⟩

theorem turn_eq_ok (h : turn document s given = .ok t) :
    ∃ edge route counts node,
      chooseEdge s.current given.route (document.outgoing s.current.id) =
        .ok (edge, route) ∧
      crossLoop edge route s.loopCounts = .ok counts ∧
      document.node edge.target = some node ∧
      t = { current := node
            handoff := given.handoff
            loopCounts := counts
            past := ((s.past.invoke s.current).answer given).follow edge route } := by
  unfold turn at h
  split at h
  · cases h
  · rename_i edge route hchoose
    split at h
    · cases h
    · rename_i counts hcross
      split at h
      · cases h
      · rename_i node hnode
        cases h
        exact ⟨edge, route, counts, node, hchoose, hcross, hnode, rfl⟩

theorem follow_of_turn (hdocument : Accepted document) (h : turn document s given = .ok t) :
    ∃ edge route, edge ∈ document.edges ∧ edge.source = s.current.id ∧
      Offered s.current (document.outgoing s.current.id) edge route ∧
      Crosses edge s.loopCounts t.loopCounts ∧
      document.node edge.target = some t.current ∧
      t.handoff = given.handoff ∧
      t.past = ((s.past.invoke s.current).answer given).follow edge route := by
  obtain ⟨edge, route, counts, node, hchoose, hcross, hnode, rfl⟩ := turn_eq_ok h
  have hoffered := exists_chooseEdge.mp ⟨_, hchoose⟩
  obtain ⟨hout, hroute⟩ := hoffered.mem
  obtain ⟨hedge, hsource⟩ := mem_of_outgoing hout
  exact ⟨edge, route, hedge, hsource, hoffered,
    (crossLoop_eq_ok hroute (hdocument.limited edge hedge)).mp hcross, hnode, rfl, rfl⟩

theorem start_eq_ok : start document message = .ok s ↔
    ∃ edge node, document.entry = some edge ∧ document.node edge.target = some node ∧
      s = { current := node, handoff := message, loopCounts := []
            past := { followed := [edge] } } := by
  unfold start
  cases hentry : document.entry with
  | none => simp
  | some edge =>
      cases hnode : document.node edge.target with
      | none => simp [hnode]
      | some node => simp [hnode, eq_comm]

/-- **Soundness.**  Turns lead to reachable positions only. -/
theorem reaches_of_exec (hdocument : Accepted document)
    (hstart : start document message = .ok s)
    (h : Exec (step document can) s answers t) :
    Reaches document can t.current t.loopCounts := by
  refine h.invariant (fun u => Reaches document can u.current u.loopCounts) ?_ ?_
  · obtain ⟨edge, node, hentry, hnode, rfl⟩ := start_eq_ok.mp hstart
    exact .entry hentry hnode
  · intro u given v hu hstep
    obtain ⟨hinvoked, hcan, hturn⟩ := step_eq_some.mp hstep
    obtain ⟨edge, route, -, -, hoffered, hcross, hnode, -, -⟩ :=
      follow_of_turn hdocument hturn
    exact .follow hu hinvoked hcan hoffered hcross hnode

/-- **Completeness.**  Some answers lead to every reachable position. -/
theorem exec_of_reaches (hdocument : Accepted document)
    (hstart : start document message = .ok s) {node : Node} {counts : List Key}
    (h : Reaches document can node counts) :
    ∃ answers t, Exec (step document can) s answers t ∧ t.current = node ∧
      t.loopCounts = counts := by
  induction h with
  | @entry edge node hentry hnode =>
      obtain ⟨edge', node', hentry', hnode', rfl⟩ := start_eq_ok.mp hstart
      rw [hentry, Option.some.injEq] at hentry'
      subst hentry'
      rw [hnode, Option.some.injEq] at hnode'
      exact ⟨[], _, .nil, hnode'.symm, rfl⟩
  | @follow node next edge route counts counts' _ hinvoked hcan hoffered hcross hnext ih =>
      obtain ⟨answers, t, hexec, rfl, rfl⟩ := ih
      obtain ⟨answer, hchoose⟩ := exists_chooseEdge.mpr hoffered
      obtain ⟨hout, hroute⟩ := hoffered.mem
      have hlimit := hdocument.limited edge (mem_of_outgoing hout).1
      have hcounts : crossLoop edge route t.loopCounts = .ok counts' :=
        (crossLoop_eq_ok hroute hlimit).mpr hcross
      let given : WorkflowStep := { handoff := "", route := answer }
      have hturn : turn document t given =
          .ok { current := next, handoff := "", loopCounts := counts'
                past := ((t.past.invoke t.current).answer given).follow edge route } := by
        simp [turn, given, hchoose, hcounts, hnext]
      exact ⟨answers ++ [given], _, hexec.snoc (step_eq_some.mpr ⟨hinvoked, hcan, hturn⟩),
        rfl, rfl⟩

theorem newWorkflow_reaches {node : Node} {counts : List Key}
    (hread : readDocument (newWorkflow "trigger") = some document)
    (h : Reaches document can node counts) : node = newController ∨ node = newResult := by
  cases hread
  induction h with
  | entry hentry hnode =>
      cases hentry
      cases hnode
      exact .inl rfl
  | follow _ hinvoked _ hoffered _ hnext ih =>
      rcases ih with rfl | rfl
      · cases hoffered with
        | only hsingle =>
            cases hsingle
            cases hnext
            exact .inr rfl
        | named _ hmany => exact absurd hmany (by decide +kernel)
      · exact absurd hinvoked (by decide +kernel)

end Zentra.Workflow
