import Zentra.WorkflowReach

/-!
# Every run of an accepted workflow ends

The check bounds the single loop edges, and leaves no cycle without one.  A run is
therefore bounded whatever the agents answer: between two loop edges it visits distinct
nodes, and each key is counted only up to the limit of the edge.

* `visited_reached` — the nodes that were invoked are among the reachable ones;
* `run_of_exec`, `current_visited` — within the bound a run comes to where the answers
  lead, and invokes the node there.
-/

open PythonJson EdgeWalks StepTrace

namespace Zentra.Workflow

/-- The handoff that the next node is given. -/
def lastHandoff (message : String) (answers : List WorkflowStep) : String :=
  (answers.getLast?.map WorkflowStep.handoff).getD message

namespace Document

def loopKeys (document : Document) : List Key :=
  document.edges.filterMap fun edge => (edge.fields.get "id").bind Json.key

def limitSum (document : Document) : Nat :=
  (document.edges.map fun edge => (edge.limit.getD 0).toNat).sum

/-- **The bound** on the invocations of a run.  The edge behind which a run starts may
be a loop edge as well, and is not counted. -/
def invocationBound (document : Document) : Nat :=
  (document.edges.length * document.limitSum + 2) * document.nodes.length

end Document

/-- The history of a run: the edges that were followed lead from the node called
"trigger" to the current one, and the invoked nodes are the ones between. -/
structure Traced (document : Document) (message : String) (s : EngineState) : Prop where
  known : s.current ∈ document.nodes
  walk : document.Walk "trigger" s.past.followed
  finish : finish Edge.target "trigger" s.past.followed = s.current.id
  visited : s.past.visited.map Node.id ++ [s.current.id] =
    s.past.followed.map Edge.target
  answered : s.past.answers.length = s.past.visited.length
  handoff : s.handoff = lastHandoff message s.past.answers
  loops : s.past.followed.countP Edge.isLoop ≤ s.loopCounts.length + 1
  keys : s.loopCounts ⊆ document.loopKeys
  counts : ∀ key, s.loopCounts.count key ≤ document.limitSum

variable {document : Document} {can : Node → Bool} {s t : EngineState}
  {given : WorkflowStep} {answers : List WorkflowStep} {message : String} {edge : Edge}
  {counts counts' : List Key}

theorem limit_le {limit : ℤ} (hedge : edge ∈ document.edges)
    (hlimit : edge.limit = some limit) : limit ≤ document.limitSum := by
  have hmem : limit.toNat ∈ document.edges.map fun edge => (edge.limit.getD 0).toNat :=
    List.mem_map.mpr ⟨edge, hedge, by simp [hlimit]⟩
  have hle : limit.toNat ≤ document.limitSum := List.le_sum_of_mem hmem
  omega

theorem counts_of_crosses (hedge : edge ∈ document.edges)
    (hcross : Crosses edge counts counts') (hkeys : counts ⊆ document.loopKeys)
    (hcounts : ∀ key, counts.count key ≤ document.limitSum) :
    counts' ⊆ document.loopKeys ∧ (∀ key, counts'.count key ≤ document.limitSum) ∧
      counts'.length = counts.length + (if edge.isLoop then 1 else 0) := by
  cases hcross with
  | plain hplain => exact ⟨hkeys, hcounts, by simp [hplain]⟩
  | @loop key limit hloop hkey hlimit hle =>
      refine ⟨?_, ?_, by simp [hloop]⟩
      · exact List.cons_subset.mpr ⟨List.mem_filterMap.mpr ⟨edge, hedge, hkey⟩, hkeys⟩
      · intro other
        rw [List.count_cons]
        by_cases hsame : key = other
        · subst hsame
          have := limit_le hedge hlimit
          simp only [beq_self_eq_true, if_true]
          omega
        · simp only [beq_iff_eq, hsame, if_false, Nat.add_zero]
          exact hcounts other

theorem traced_start (hstart : start document message = .ok s) :
    Traced document message s := by
  obtain ⟨edge, node, hentry, hnode, rfl⟩ := start_eq_ok.mp hstart
  have hsource : edge.source = "trigger" := by simpa using List.find?_some hentry
  obtain ⟨hmem, hid⟩ := mem_of_node hnode
  exact
    { known := hmem
      walk := ⟨List.mem_of_find?_eq_some hentry, hsource, trivial⟩
      finish := hid.symm
      visited := by simp [hid]
      answered := rfl
      handoff := rfl
      loops := List.countP_le_length
      keys := by simp
      counts := by simp }

theorem traced_turn (hdocument : Accepted document) (hs : Traced document message s)
    (h : turn document s given = .ok t) : Traced document message t := by
  obtain ⟨edge, route, hedge, hsource, -, hcross, hnode, hhandoff, hpast⟩ :=
    follow_of_turn hdocument h
  obtain ⟨hmem, hid⟩ := mem_of_node hnode
  obtain ⟨hkeys, hcounts, hlength⟩ := counts_of_crosses hedge hcross hs.keys hs.counts
  constructor
  case known => exact hmem
  case walk =>
    rw [hpast]
    exact hs.walk.snoc hedge (hsource.trans hs.finish.symm)
  case finish =>
    rw [hpast, hid]
    exact finish_snoc
  case visited =>
    simp only [hpast, History.follow, History.answer, History.invoke, List.map_append,
      List.map_cons, List.map_nil, hs.visited, hid]
  case answered =>
    simp [hpast, History.follow, History.answer, History.invoke, hs.answered]
  case handoff =>
    simp [hpast, hhandoff, History.follow, History.answer, History.invoke, lastHandoff]
  case loops =>
    have := hs.loops
    simp only [hpast, History.follow, History.answer, History.invoke, List.countP_append,
      List.countP_singleton]
    omega
  case keys => exact hkeys
  case counts => exact hcounts

theorem traced_exec (hdocument : Accepted document)
    (hstart : start document message = .ok s)
    (h : Exec (step document can) s answers t) : Traced document message t := by
  refine h.invariant (Traced document message) (traced_start hstart) ?_
  intro u given v hu hstep
  exact traced_turn hdocument hu (step_eq_some.mp hstep).2.2

/-- The answers of an execution are those in its history. -/
theorem answers_exec (hdocument : Accepted document)
    (hstart : start document message = .ok s)
    (h : Exec (step document can) s answers t) : t.past.answers = answers := by
  refine h.history (fun past u => u.past.answers = past) ?_ ?_
  · obtain ⟨edge, node, -, -, rfl⟩ := start_eq_ok.mp hstart
    rfl
  · intro past u given v _ hu hstep
    obtain ⟨_, _, -, -, -, -, -, -, hpast⟩ :=
      follow_of_turn hdocument (step_eq_some.mp hstep).2.2
    rw [hpast, ← hu]
    rfl

theorem plain_walks (hdocument : Accepted document) (id : String) (walk : List Edge)
    (hwalk : document.Walk id walk) (hplain : ∀ e ∈ walk, e.isLoop = false) :
    walk.length < document.nodes.length := by
  cases walk with
  | nil =>
      have hone := hdocument.oneController
      have hle := List.length_filter_le Node.isController document.nodes
      simp only [List.length_nil]
      omega
  | cons first rest =>
      have ⟨hmem, hsource, _⟩ := hwalk
      exact plain_walk_lt hdocument (hsource ▸ (hdocument.connected first hmem).1) hwalk
        hplain

/-- **Termination.**  Whatever the answers are, an execution of turns is shorter than a
bound that depends on the document alone. -/
theorem turns_lt (hdocument : Accepted document)
    (hstart : start document message = .ok s)
    (h : Exec (step document can) s answers t) :
    answers.length + 1 < document.invocationBound := by
  have htrace := traced_exec hdocument hstart h
  have hcounted : t.loopCounts.length ≤ document.edges.length * document.limitSum := by
    refine le_trans (length_le_of_count_le htrace.keys fun key _ => htrace.counts key) ?_
    exact Nat.mul_le_mul_right _ (List.length_filterMap_le _ _)
  have hwalk := IsWalk.length_lt (plain_walks hdocument) htrace.walk
  have hfollowed : t.past.followed.length = answers.length + 1 := by
    have hlength := congrArg List.length htrace.visited
    simp only [List.length_append, List.length_map, List.length_singleton] at hlength
    rw [← answers_exec hdocument hstart h, htrace.answered]
    exact hlength.symm
  have hloops := htrace.loops
  calc answers.length + 1 = t.past.followed.length := hfollowed.symm
    _ < (t.past.followed.countP Edge.isLoop + 1) * document.nodes.length := hwalk
    _ ≤ document.invocationBound := Nat.mul_le_mul_right _ (by omega)

theorem visited_reached (hdocument : Accepted document)
    (hstart : start document message = .ok s)
    (h : Exec (step document can) s answers t) :
    ∀ node ∈ t.past.visited,
      ∃ counts, Reaches document can node counts ∧ node.invoked = true := by
  refine h.history (fun _ u => ∀ node ∈ u.past.visited,
    ∃ counts, Reaches document can node counts ∧ node.invoked = true) ?_ ?_
  · obtain ⟨edge, node, -, -, rfl⟩ := start_eq_ok.mp hstart
    simp
  · intro past u given v hexec hu hstep node hnode
    obtain ⟨hinvoked, -, hturn⟩ := step_eq_some.mp hstep
    rw [visited_of_turn hturn] at hnode
    rcases List.mem_append.mp hnode with hnode | hnode
    · exact hu node hnode
    · rw [List.mem_singleton.mp hnode]
      exact ⟨_, reaches_of_exec hdocument hstart hexec, hinvoked⟩

theorem visited_length (hdocument : Accepted document)
    (hstart : start document message = .ok s)
    (h : Exec (step document can) s answers t) :
    t.past.visited.length = answers.length := by
  rw [← (traced_exec hdocument hstart h).answered, answers_exec hdocument hstart h]

variable {ε : Type}

/-- **Some run** comes to where the execution leads, before it reaches the bound. -/
theorem run_of_exec (hdocument : Accepted document)
    (hstart : start document message = .ok s)
    (h : Exec (step document can) s answers t) (invoke : Invoker ε)
    (hinvoke : ∀ i node handoff answer, can node = true → answers[i]? = some answer →
      invoke i node handoff = .ok answer) :
    ∃ fuel, engineRun document message invoke document.invocationBound =
      drive document invoke (fuel + 1) t := by
  have hlt := turns_lt hdocument hstart h
  have hvisited : s.past.visited = [] := by
    obtain ⟨_, _, -, -, rfl⟩ := start_eq_ok.mp hstart
    rfl
  refine ⟨document.invocationBound - answers.length - 1, ?_⟩
  simp only [engineRun, hstart]
  rw [← drive_of_exec h ?_ (document.invocationBound - answers.length - 1 + 1)]
  · congr 1
    omega
  · intro i node text answer hcan hanswer
    rw [hvisited]
    simpa using hinvoke i node text answer hcan hanswer

theorem past_drive (invoke : Invoker ε) (fuel : Nat) (s : EngineState) :
    s.past.visited <+: (drive document invoke fuel s).1.visited ∧
      s.past.followed <+: (drive document invoke fuel s).1.followed := by
  induction fuel generalizing s with
  | zero => exact ⟨List.prefix_refl _, List.prefix_refl _⟩
  | succ fuel ih =>
      rw [drive]
      split
      · exact ⟨List.prefix_refl _, List.prefix_refl _⟩
      · split
        · exact ⟨List.prefix_refl _, List.prefix_refl _⟩
        · split
          · exact ⟨List.prefix_append _ _, List.prefix_refl _⟩
          · split
            · exact ⟨List.prefix_append _ _, List.prefix_refl _⟩
            · rename_i next hturn
              obtain ⟨hvisited, hfollowed⟩ := ih next
              obtain ⟨edge, route, counts, node, -, -, -, rfl⟩ := turn_eq_ok hturn
              exact ⟨(List.prefix_append _ _).trans hvisited,
                (List.prefix_append _ _).trans hfollowed⟩

theorem current_visited (invoke : Invoker ε) (fuel : Nat) (h : s.current.invoked = true) :
    s.current ∈ (drive document invoke (fuel + 1) s).1.visited := by
  simp only [Node.invoked, Option.any_eq_true, decide_eq_true_eq] at h
  obtain ⟨type, htype, hresult⟩ := h
  simp only [drive, htype, hresult, if_false]
  split
  · simp [History.invoke]
  · split
    · simp [History.answer, History.invoke]
    · rename_i hturn
      refine (past_drive invoke fuel _).1.subset ?_
      rw [visited_of_turn hturn]
      simp

end Zentra.Workflow
