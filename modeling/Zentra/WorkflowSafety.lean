import Mathlib.Data.Fintype.EquivFin
import Zentra.WorkflowTermination

/-!
# When an accepted workflow runs safely

The check and the engine read the same document, each in its own way: the check looks
for a node of the type "trigger", the engine for the edges of the node with that id; the
check lets data pass that is no object, the engine asks it for a `get`; and the check
leaves alone every node that is no agent, while the engine invokes it.

* `fit_of_safe` — a reachable node that is not fit is the end of some unsafe run;
* `safe_iff_fits` — the definitions without an error that run safely.
-/

open PythonJson EdgeWalks StepTrace

namespace Zentra.Workflow

/-- An answer to every invocation, whatever it is. -/
abbrev Agent : Type := Nat → Node → String → WorkflowStep

/-- The agent as the engine calls it: it always answers. -/
def Agent.invoke (agent : Agent) : Invoker Empty :=
  fun n node handoff => .ok (agent n node handoff)

def ControllerId (document : Document) (id : String) : Prop :=
  ∃ node ∈ document.nodes, node.id = id ∧ node.isController = true

/-- The errors that a run may end with: a controller that gave no declared route, or the
limit of a loop. -/
def MayRaise (document : Document) : EngineError → Prop
  | .mustChoose id => ControllerId document id
  | .undeclared id _ => ControllerId document id
  | .loopLimit _ => True
  | _ => False

def MayEnd (document : Document) (message : String) (past : History) : Ending Empty → Prop
  | .returned result =>
      result.output = lastHandoff message past.answers ∧
        ∃ edge node, past.followed.getLast? = some edge ∧
          document.node edge.target = some node ∧ node.ofType "result" = true
  | .raised error => MayRaise document error
  | .failed _ => False
  | .unfinished => False

/-- **A safe run**: boundedly many invocations, along declared edges from a declared
trigger on, of agents only, and one of the ends that are allowed. -/
structure SafeRun (document : Document) (message : String)
    (run : History × Ending Empty) : Prop where
  bounded : run.1.visited.length ≤ document.invocationBound
  declared : ∃ trigger ∈ document.nodes, trigger.ofType "trigger" = true ∧
    document.Walk trigger.id run.1.followed
  along : run.1.visited.map Node.id <+: run.1.followed.map Edge.target
  agents : ∀ node ∈ run.1.visited, node.ofType "agent" = true
  ends : MayEnd document message run.1 run.2

def Document.RunsSafely (document : Document) : Prop :=
  ∀ message (agent : Agent),
    SafeRun document message
      (engineRun document message agent.invoke document.invocationBound)

/-- Every run of the definition is safe. -/
def RunsSafely (definition : Object) : Prop :=
  ∃ document, readDocument definition = some document ∧ document.RunsSafely

/-- A node at which a run can go on or end as it may: an agent whose edges can be read;
without an edge, or with a single one that has an empty route, it is the controller; and
the loop edges it offers can be counted. -/
structure Fit (document : Document) (node : Node) : Prop where
  agent : node.ofType "agent" = true
  readable : ∀ edge ∈ document.outgoing node.id, ∃ route, edge.route = some route
  deadEnd : document.outgoing node.id = [] → node.isController = true
  single : ∀ edge route, document.outgoing node.id = [edge] → edge.route = some route →
    route.truthy = true ∨ node.isController = true
  counted : ∀ edge route, Offered node (document.outgoing node.id) edge route →
    edge.isLoop = true → ∃ key, (edge.fields.get "id").bind Json.key = some key

def always : Node → Bool := fun _ => true

/-- The node called "trigger" is a trigger with an edge, and every node that can be
reached behind its first edge is a result node or a fit one. -/
structure Document.Fits (document : Document) : Prop where
  entered : ∃ edge trigger, document.entry = some edge ∧
    document.node "trigger" = some trigger ∧ trigger.ofType "trigger" = true
  fit : ∀ node counts, Reaches document always node counts →
    node.ofType "result" = true ∨ Fit document node

def Fits (definition : Object) : Prop :=
  ∃ document, readDocument definition = some document ∧ document.Fits

variable {document : Document} {node : Node} {s t : EngineState} {given : WorkflowStep}
  {answers : List WorkflowStep} {message : String} {edge : Edge} {route : Json}
  {outgoing : List Edge} {error : EngineError} {counts : List Key}

theorem node_of_id (hdocument : Accepted document) (h : node ∈ document.nodes) :
    document.node node.id = some node := by
  obtain ⟨found, hfound⟩ := node_of_mem (List.mem_map.mpr ⟨node, h, rfl⟩)
  obtain ⟨hmem, hid⟩ := mem_of_node hfound
  rw [hfound, List.inj_on_of_nodup_map hdocument.distinct hmem h hid]

/-- A node that is invoked is no result node, and one that has a type is one of both. -/
theorem invoked_or_result {type : Json} (h : node.fields.get "type" = some type) :
    node.invoked = true ∧ node.ofType "result" = false ∨
      node.invoked = false ∧ node.ofType "result" = true := by
  by_cases hresult : type.text = some "result" <;>
    simp [Node.invoked, Node.ofType, h, hresult]

theorem not_result_of_invoked (h : node.invoked = true) : node.ofType "result" = false := by
  unfold Node.invoked at h
  cases htype : node.fields.get "type" with
  | none => simp [htype] at h
  | some type =>
      rcases invoked_or_result htype with ⟨-, hresult⟩ | ⟨hno, -⟩
      · exact hresult
      · simp [Node.invoked, htype] at hno h
        exact absurd hno h

theorem firstOn_readable (text : String)
    (hreadable : ∀ edge ∈ outgoing, ∃ route, edge.route = some route) :
    ∃ found, firstOn text outgoing = .ok found := by
  induction outgoing with
  | nil => exact ⟨none, rfl⟩
  | cons first rest ih =>
      obtain ⟨route, hroute⟩ := hreadable first (by simp)
      obtain ⟨found, hfound⟩ := ih fun e he => hreadable e (by simp [he])
      rw [firstOn, hroute]
      by_cases hfirst : route.text = some text
      · exact ⟨some first, by simp [hfirst]⟩
      · exact ⟨found, by simp [hfirst, hfound]⟩

theorem namedEdge_error {answer : Option String}
    (hreadable : ∀ edge ∈ outgoing, ∃ route, edge.route = some route)
    (h : namedEdge node answer outgoing = .error error) :
    error = .mustChoose node.id ∨ ∃ text, error = .undeclared node.id text := by
  unfold namedEdge at h
  split at h
  · cases h
    exact .inl rfl
  · rename_i text
    split at h
    · cases h
      exact .inl rfl
    · obtain ⟨found, hfound⟩ := firstOn_readable text hreadable
      rw [hfound] at h
      cases found with
      | none =>
          cases h
          exact .inr ⟨text, rfl⟩
      | some found => cases h

theorem chooseEdge_error (hdocument : Accepted document) (hfit : Fit document node)
    (hnode : node ∈ document.nodes) {answer : Option String}
    (h : chooseEdge node answer (document.outgoing node.id) = .error error) :
    MayRaise document error := by
  have hnamed : node.isController = true → ∀ outgoing,
      (∀ edge ∈ outgoing, ∃ route, edge.route = some route) →
      namedEdge node answer outgoing = .error error → MayRaise document error := by
    intro hcontroller outgoing hreadable h
    rcases namedEdge_error hreadable h with rfl | ⟨text, rfl⟩
    · exact ⟨node, hnode, rfl, hcontroller⟩
    · exact ⟨node, hnode, rfl, hcontroller⟩
  match hout : document.outgoing node.id with
  | [] =>
      rw [hout] at h
      exact hnamed (hfit.deadEnd hout) [] (by simp) h
  | [first] =>
      rw [hout] at h
      obtain ⟨route, hroute⟩ := hfit.readable first (by simp [hout])
      simp only [chooseEdge, hroute] at h
      split at h
      · cases h
      · rename_i htruthy
        cases h
        rcases hfit.single first route hout hroute with htrue | hcontroller
        · exact absurd htrue htruthy
        · exact ⟨node, hnode, rfl, hcontroller⟩
  | first :: second :: rest =>
      have hcontroller := hdocument.choices node hnode hfit.agent (by simp [hout])
      have hreadable := hfit.readable
      rw [hout] at h hreadable
      simp only [chooseEdge, mayChoose_iff.mpr hcontroller] at h
      exact hnamed hcontroller _ hreadable h

theorem crossLoop_error (hdocument : Accepted document) (hfit : Fit document node)
    (hoffered : Offered node (document.outgoing node.id) edge route)
    (h : crossLoop edge route counts = .error error) : MayRaise document error := by
  obtain ⟨hout, hroute⟩ := hoffered.mem
  obtain ⟨data, hdata⟩ := data_of_route hroute
  obtain ⟨hloop, hint⟩ := loop_of_data hdata
  simp only [crossLoop, hdata, ← hloop] at h
  split at h
  · rename_i hisLoop
    obtain ⟨limit, hread, -⟩ := hdocument.limited edge (mem_of_outgoing hout).1 hisLoop
    obtain ⟨value, hvalue, hvalueInt⟩ := Option.bind_eq_some_iff.mp (hint ▸ hread)
    obtain ⟨key, hkey⟩ := hfit.counted edge route hoffered hisLoop
    obtain ⟨id, hid, hidKey⟩ := Option.bind_eq_some_iff.mp hkey
    simp only [hid, hidKey, hvalue, Option.bind_some, Json.number_of_isInt hvalueInt] at h
    split at h
    · cases h
      trivial
    · cases h
  · cases h

/-- **A turn at a fit node** raises only what it may raise. -/
theorem turn_error (hdocument : Accepted document) (hfit : Fit document s.current)
    (hnode : s.current ∈ document.nodes) (h : turn document s given = .error error) :
    MayRaise document error := by
  unfold turn at h
  split at h
  · rename_i hchoose
    cases h
    exact chooseEdge_error hdocument hfit hnode hchoose
  · rename_i edge route hchoose
    have hoffered := exists_chooseEdge.mp ⟨_, hchoose⟩
    split at h
    · rename_i hcross
      cases h
      exact crossLoop_error hdocument hfit hoffered hcross
    · split at h
      · rename_i hmissing
        have hedge := (mem_of_outgoing hoffered.mem.1).1
        obtain ⟨next, hnext⟩ := node_of_mem (hdocument.connected edge hedge).2
        rw [hmissing] at hnext
        cases hnext
      · cases h

theorem start_of_entry (hdocument : Accepted document)
    (hentry : document.entry = some edge) (message : String) :
    ∃ s, start document message = .ok s := by
  have hedge := List.mem_of_find?_eq_some hentry
  obtain ⟨node, hnode⟩ := node_of_mem (hdocument.connected edge hedge).2
  exact ⟨_, start_eq_ok.mpr ⟨edge, node, hentry, hnode, rfl⟩⟩

theorem Traced.last (h : Traced document message s) :
    ∃ edge, s.past.followed.getLast? = some edge ∧ edge.target = s.current.id := by
  have hlast := congrArg List.getLast? h.visited
  simp only [List.getLast?_concat, List.getLast?_map] at hlast
  obtain ⟨edge, hedge, htarget⟩ := Option.map_eq_some_iff.mp hlast.symm
  exact ⟨edge, hedge, htarget⟩

/-- **Fit documents run safely.** -/
theorem safe_of_fits (hdocument : Accepted document) (h : document.Fits) :
    document.RunsSafely := by
  intro message agent
  obtain ⟨entry, trigger, hentry, htrigger, htype⟩ := h.entered
  obtain ⟨s, hstart⟩ := start_of_entry hdocument hentry message
  obtain ⟨htriggerMem, htriggerId⟩ := mem_of_node htrigger
  simp only [engineRun, hstart]
  obtain ⟨answers, t, hexec, hend⟩ :=
    drive_spec document always agent.invoke (fun _ _ _ _ _ => rfl)
      document.invocationBound s
  have htrace := traced_exec hdocument hstart hexec
  have hlt := turns_lt hdocument hstart hexec
  have hlength := visited_length hdocument hstart hexec
  have hagent : ∀ node counts, Reaches document always node counts →
      node.invoked = true → Fit document node := by
    intro node counts hreach hinvoked
    refine (h.fit node counts hreach).resolve_left ?_
    rw [not_result_of_invoked hinvoked]
    simp
  have hvisited : ∀ node ∈ t.past.visited, node.ofType "agent" = true := by
    intro node hnode
    obtain ⟨counts, hreach, hinvoked⟩ := visited_reached hdocument hstart hexec node hnode
    exact (hagent node counts hreach hinvoked).agent
  have hreach := reaches_of_exec hdocument hstart hexec
  have hdeclared : ∃ trigger ∈ document.nodes, trigger.ofType "trigger" = true ∧
      document.Walk trigger.id t.past.followed :=
    ⟨trigger, htriggerMem, htype, htriggerId ▸ htrace.walk⟩
  have halong : t.past.visited.map Node.id <+: t.past.followed.map Edge.target :=
    ⟨_, htrace.visited⟩
  rcases hend with ⟨hfull, -⟩ | ⟨-, hstops⟩
  · omega
  · generalize drive document agent.invoke document.invocationBound s = run at hstops
    cases hstops with
    | untyped huntyped =>
        rcases h.fit _ _ hreach with hresult | hfit
        · simp [Node.ofType, huntyped] at hresult
        · simpa [Node.ofType, huntyped] using hfit.agent
    | result hresult =>
        obtain ⟨last, hlast, htarget⟩ := htrace.last
        exact
          { bounded := by simp only; omega
            declared := hdeclared
            along := halong
            agents := hvisited
            ends := ⟨htrace.handoff, last, t.current, hlast,
              htarget ▸ node_of_id hdocument htrace.known, hresult⟩ }
    | @failed error => exact error.elim
    | raised hinvoked _ hturn =>
        have hfit := hagent _ _ hreach hinvoked
        exact
          { bounded := by
              simp only [History.answer, History.invoke, List.length_append,
                List.length_singleton]
              omega
            declared := hdeclared
            along := by
              simp only [History.answer, History.invoke, List.map_append, List.map_cons,
                List.map_nil, htrace.visited, List.prefix_refl]
            agents := by
              intro node hnode
              rcases List.mem_append.mp hnode with hnode | hnode
              · exact hvisited node hnode
              · rw [List.mem_singleton.mp hnode]
                exact hfit.agent
            ends := turn_error hdocument hfit htrace.known hturn }

/-- The agent that gives the answers one after the other, and then the last one. -/
def scripted (answers : List WorkflowStep) (given : WorkflowStep) : Agent :=
  fun n _ _ => (answers[n]?).getD given

/-- Some run comes to where the execution leads, with any answer that follows. -/
theorem scripted_run (hdocument : Accepted document)
    (hstart : start document message = .ok s)
    (h : Exec (step document always) s answers t) (given : WorkflowStep) :
    ∃ fuel, engineRun document message (scripted answers given).invoke
        document.invocationBound =
      drive document (scripted answers given).invoke (fuel + 1) t ∧
      (scripted answers given).invoke t.past.visited.length t.current t.handoff =
        .ok given := by
  obtain ⟨fuel, hrun⟩ := run_of_exec hdocument hstart h (scripted answers given).invoke
    fun i node text answer _ hanswer => by simp [Agent.invoke, scripted, hanswer]
  refine ⟨fuel, hrun, ?_⟩
  simp [Agent.invoke, scripted, visited_length hdocument hstart h]

theorem mayRaise_of_safe (hdocument : Accepted document) (hsafe : document.RunsSafely)
    (hstart : start document message = .ok s)
    (h : Exec (step document always) s answers t) (hinvoked : t.current.invoked = true)
    (hturn : turn document t given = .error error) : MayRaise document error := by
  obtain ⟨fuel, hrun, hanswer⟩ := scripted_run hdocument hstart h given
  have hend := (hsafe message (scripted answers given)).ends
  simp only [Node.invoked, Option.any_eq_true, decide_eq_true_eq] at hinvoked
  obtain ⟨type, htype, hresult⟩ := hinvoked
  rw [hrun] at hend
  simp only [drive, htype, hresult, if_false, hanswer, hturn] at hend
  exact hend

theorem exists_fresh (edges : List Edge) :
    ∃ text, text ≠ "" ∧ ∀ edge ∈ edges, ∀ route, edge.route = some route →
      route.text ≠ some text := by
  obtain ⟨text, htext⟩ := Infinite.exists_notMem_finset
    ("" :: edges.filterMap fun edge => edge.route.bind Json.text).toFinset
  simp only [List.mem_toFinset, List.mem_cons, List.mem_filterMap, not_or, not_exists,
    not_and] at htext
  refine ⟨text, htext.1, ?_⟩
  intro edge hedge route hroute hsame
  exact htext.2 edge hedge (by simp [hroute, hsame])

theorem firstOn_unreadable {text : String}
    (hfresh : ∀ edge ∈ outgoing, ∀ route, edge.route = some route → route.text ≠ some text)
    (hedge : edge ∈ outgoing) (hunread : edge.route = none) :
    firstOn text outgoing = .error .noGet := by
  induction outgoing with
  | nil => cases hedge
  | cons first rest ih =>
      rw [firstOn]
      cases hroute : first.route with
      | none => rfl
      | some route =>
          have hne := hfresh first (by simp) route hroute
          rcases List.mem_cons.mp hedge with rfl | hedge
          · rw [hunread] at hroute
            cases hroute
          · simp only [hne, if_false]
            exact ih (fun e he => hfresh e (by simp [he])) hedge

theorem chooseEdge_unreadable (hdocument : Accepted document)
    (hnode : node ∈ document.nodes) (hagent : node.ofType "agent" = true)
    (hedge : edge ∈ document.outgoing node.id) (hunread : edge.route = none) :
    ∃ answer, chooseEdge node answer (document.outgoing node.id) = .error .noGet := by
  match hout : document.outgoing node.id with
  | [] => simp [hout] at hedge
  | [first] =>
      rw [hout, List.mem_singleton] at hedge
      subst hedge
      exact ⟨none, by simp [chooseEdge, hunread]⟩
  | first :: second :: rest =>
      have hcontroller := hdocument.choices node hnode hagent (by simp [hout])
      obtain ⟨text, hne, hfresh⟩ := exists_fresh (document.outgoing node.id)
      have hfirst := firstOn_unreadable hfresh hedge hunread
      rw [hout] at hfirst
      refine ⟨some text, ?_⟩
      simp [chooseEdge, mayChoose_iff.mpr hcontroller, namedEdge, hne, hfirst]

theorem turn_of_chooseEdge
    (h : chooseEdge s.current given.route (document.outgoing s.current.id) = .error error) :
    turn document s given = .error error := by
  simp [turn, h]

theorem crossLoop_keyless (hroute : edge.route = some route)
    (hloop : edge.isLoop = true) (hkey : (edge.fields.get "id").bind Json.key = none) :
    ∃ error, crossLoop edge route counts = .error error ∧ ¬MayRaise document error := by
  obtain ⟨data, hdata⟩ := data_of_route hroute
  obtain ⟨hisLoop, -⟩ := loop_of_data hdata
  simp only [crossLoop, hdata, ← hisLoop, hloop, if_true]
  cases hid : edge.fields.get "id" with
  | none => exact ⟨_, rfl, id⟩
  | some id =>
      simp only [hid, Option.bind_some] at hkey
      exact ⟨.unhashable, by simp [hkey], fun h => h⟩

/-- **Reachable nodes of a safe document** are result nodes or fit. -/
theorem fit_of_safe (hdocument : Accepted document) (hsafe : document.RunsSafely)
    (hstart : start document message = .ok s)
    (h : Exec (step document always) s answers t) :
    t.current.ofType "result" = true ∨ Fit document t.current := by
  have hknown := (traced_exec hdocument hstart h).known
  cases htype : t.current.fields.get "type" with
  | none =>
      obtain ⟨fuel, hrun, -⟩ := scripted_run hdocument hstart h { handoff := "" }
      have hend := (hsafe message (scripted answers { handoff := "" })).ends
      rw [hrun] at hend
      simp [drive, htype, MayEnd, MayRaise] at hend
  | some type =>
      rcases invoked_or_result htype with ⟨hinvoked, -⟩ | ⟨-, hresult⟩
      case inr => exact .inl hresult
      refine .inr ?_
      have hraise : ∀ given {error}, turn document t given = .error error →
          MayRaise document error := fun _ _ hturn =>
        mayRaise_of_safe hdocument hsafe hstart h hinvoked hturn
      have hsame : ControllerId document t.current.id → t.current.isController = true := by
        rintro ⟨node, hnode, hid, hcontroller⟩
        rwa [← List.inj_on_of_nodup_map hdocument.distinct hnode hknown hid]
      have hagent : t.current.ofType "agent" = true := by
        obtain ⟨fuel, hrun, -⟩ := scripted_run hdocument hstart h { handoff := "" }
        refine (hsafe message (scripted answers { handoff := "" })).agents t.current ?_
        rw [hrun]
        exact current_visited _ fuel hinvoked
      have hmust : turn document t { handoff := "" } = .error (.mustChoose t.current.id) →
          t.current.isController = true := fun hturn => hsame (hraise _ hturn)
      refine ⟨hagent, ?_, ?_, ?_, ?_⟩
      · intro edge hedge
        by_contra hunread
        have hnone : edge.route = none := by
          cases hroute : edge.route with
          | none => rfl
          | some route => exact absurd ⟨route, hroute⟩ hunread
        obtain ⟨answer, hchoose⟩ :=
          chooseEdge_unreadable hdocument hknown hagent hedge hnone
        exact hraise { handoff := "", route := answer }
          (turn_of_chooseEdge hchoose)
      · intro hout
        refine hmust (turn_of_chooseEdge ?_)
        simp [hout, chooseEdge, namedEdge]
      · intro edge route hout hroute
        by_cases htruthy : route.truthy = true
        · exact .inl htruthy
        · refine .inr (hmust (turn_of_chooseEdge ?_))
          simp [hout, chooseEdge, hroute, htruthy]
      · intro edge route hoffered hloop
        by_contra hnokey
        have hnone : (edge.fields.get "id").bind Json.key = none := by
          cases hkey : (edge.fields.get "id").bind Json.key with
          | none => rfl
          | some key => exact absurd ⟨key, hkey⟩ hnokey
        obtain ⟨answer, hchoose⟩ := exists_chooseEdge.mpr hoffered
        obtain ⟨-, hroute⟩ := hoffered.mem
        obtain ⟨error, hcross, hnot⟩ :=
          @crossLoop_keyless document _ _ t.loopCounts hroute hloop hnone
        refine hnot (hraise { handoff := "", route := answer } ?_)
        simp [turn, hchoose, hcross]

/-- **Safe documents fit.** -/
theorem fits_of_safe (hdocument : Accepted document) (hsafe : document.RunsSafely) :
    document.Fits := by
  have hfirst := hsafe "" fun _ _ _ => { handoff := "" }
  cases hentry : document.entry with
  | none =>
      have hend := hfirst.ends
      simp [engineRun, start, hentry, MayEnd, MayRaise] at hend
  | some entry =>
      obtain ⟨s, hstart⟩ := start_of_entry hdocument hentry ""
      have hfollowed : s.past.followed = [entry] := by
        obtain ⟨edge, node, hedge, -, rfl⟩ := start_eq_ok.mp hstart
        rw [hentry, Option.some.injEq] at hedge
        rw [hedge]
      have hsource : entry.source = "trigger" := by simpa using List.find?_some hentry
      constructor
      · obtain ⟨trigger, hmem, htype, hwalk⟩ := hfirst.declared
        simp only [engineRun, hstart] at hwalk
        have hpast := @past_drive document _ (Agent.invoke fun _ _ _ => { handoff := "" })
          document.invocationBound s
        obtain ⟨rest, hrest⟩ := hpast.2
        rw [← hrest, hfollowed] at hwalk
        have hid : trigger.id = "trigger" := hwalk.2.1.symm.trans hsource
        exact ⟨entry, trigger, hentry, hid ▸ node_of_id hdocument hmem, htype⟩
      · intro node counts hreach
        obtain ⟨answers, t, hexec, rfl, -⟩ := exec_of_reaches hdocument hstart hreach
        exact fit_of_safe hdocument hsafe hstart hexec

/-- **Safety.**  A definition without an error runs safely exactly if it fits. -/
theorem safe_iff_fits (definition : Object) (h : documentError definition = none) :
    RunsSafely definition ↔ Fits definition := by
  obtain ⟨document, hread, hdocument⟩ := accepted h
  constructor
  · rintro ⟨other, hother, hsafe⟩
    rw [hread, Option.some.injEq] at hother
    subst hother
    exact ⟨document, hread, fits_of_safe hdocument hsafe⟩
  · rintro ⟨other, hother, hfits⟩
    rw [hread, Option.some.injEq] at hother
    subst hother
    exact ⟨document, hread, safe_of_fits hdocument hfits⟩

theorem newWorkflow_fits : Fits (newWorkflow "trigger") := by
  refine ⟨_, rfl, ⟨_, _, rfl, rfl, rfl⟩, ?_⟩
  intro node counts hreach
  rcases newWorkflow_reaches rfl hreach with rfl | rfl
  · refine .inr ⟨rfl, ?_, fun _ => rfl, fun _ _ _ _ => .inr rfl, ?_⟩
    · intro edge hedge
      cases List.mem_singleton.mp hedge
      exact ⟨_, rfl⟩
    · intro edge route hoffered hloop
      cases hoffered with
      | only hsingle =>
          cases hsingle
          cases hloop
      | named _ hmany => exact absurd hmany (by decide +kernel)
  · exact .inl rfl

/-- The template runs safely. -/
theorem newWorkflow_safe : RunsSafely (newWorkflow "trigger") :=
  (safe_iff_fits (newWorkflow "trigger") (by decide +kernel)).mpr newWorkflow_fits

/-- With another id for its trigger the template is accepted as well, and every run of
it ends with the error that the trigger has no edge. -/
theorem renamed_trigger_unsafe :
    documentError (newWorkflow "start") = none ∧ ¬RunsSafely (newWorkflow "start") := by
  refine ⟨by decide +kernel, ?_⟩
  rintro ⟨document, hread, hsafe⟩
  cases hread
  exact (hsafe "" fun _ _ _ => { handoff := "" }).ends

end Zentra.Workflow
