import Zentra.TopologicalSort

/-!
# Circular dependencies

`hasCircularDependency` searches the graph that `topologicalSort` sorts, for an item that is met
again while it is being visited.  It has a second set for the items that are being visited, and
leaves it as it was where it finds nothing.

* `search_found` — a search that finds something has found a cycle;
* `sortsByDependencies_iff` — both functions do what they are for exactly if no item is falsy.
-/

open DependencyGraph Relation

namespace Zentra

namespace Algorithm

namespace Dependencies

section Search

variable {T : Type} (input : Dependencies T)

/-- `visited` and `visiting`. -/
structure SearchState where
  visited : Finset String
  visiting : Finset String

/-- `for (const dep of …) { if (visit(dep)) return true; }`. -/
def searchEach (visit : String → SearchState → Option (Bool × SearchState)) :
    List String → SearchState → Option (Bool × SearchState)
  | [], state => some (false, state)
  | dep :: rest, state => do
      let (found, after) ← visit dep state
      if found then return (true, after) else searchEach visit rest after

/-- The keys that are gone through below a key: none where `if (item)` does not hold. -/
def dependenciesOf (key : String) : List String :=
  match input.lookup key with
  | none => []
  | some item => input.getDependencies item

/-- `visit` of `hasCircularDependency`, to some depth. -/
def search : Nat → String → SearchState → Option (Bool × SearchState)
  | 0, _, _ => none
  | depth + 1, key, state =>
      if key ∈ state.visiting then
        some (true, state)
      else if key ∈ state.visited then
        some (false, state)
      else do
        let (found, after) ← searchEach (search depth) (input.dependenciesOf key)
          { state with visiting := insert key state.visiting }
        if found then
          return (true, after)
        else
          return (false, { visited := insert key after.visited
                           visiting := after.visiting.erase key })

def hasCircularDependency : Option Bool := do
  let (found, _) ← searchEach (input.search input.depth) (input.items.map input.getKey)
    { visited := ∅, visiting := ∅ }
  return found

variable {input}

section SearchLoops

variable {visit : String → SearchState → Option (Bool × SearchState)} {deps : List String}
  {reached : List String → SearchState → Prop} {start after : SearchState}

/-- **A loop** keeps what the visits that find nothing keep, up to the visit that finds
something. -/
theorem searchEach_outcome {found : Bool} (hstart : reached [] start)
    (hstep : ∀ done dep s t, dep ∈ deps → reached done s → visit dep s = some (false, t) →
      reached (done ++ [dep]) t)
    (h : searchEach visit deps start = some (found, after)) :
    (found = false ∧ reached deps after) ∨
      (found = true ∧
        ∃ done dep s, dep ∈ deps ∧ reached done s ∧ visit dep s = some (true, after)) := by
  have hfrom : ∀ rest done s, done ++ rest = deps → reached done s →
      searchEach visit rest s = some (found, after) →
      (found = false ∧ reached deps after) ∨
        (found = true ∧
          ∃ done dep s, dep ∈ deps ∧ reached done s ∧ visit dep s = some (true, after)) := by
    intro rest
    induction rest with
    | nil =>
        intro done s hdone hs hafter
        obtain ⟨rfl, rfl⟩ := Prod.mk.inj (Option.some.inj hafter)
        rw [List.append_nil] at hdone
        exact .inl ⟨rfl, hdone ▸ hs⟩
    | cons dep rest ih =>
        intro done s hdone hs hafter
        unfold searchEach at hafter
        obtain ⟨⟨foundIn, t⟩, ht, hrest⟩ := Option.bind_eq_some_iff.1 hafter
        have hdep : dep ∈ deps := by
          rw [← hdone]
          exact List.mem_append_right _ List.mem_cons_self
        cases foundIn with
        | true =>
            obtain ⟨rfl, rfl⟩ := Prod.mk.inj (Option.some.inj hrest)
            exact .inr ⟨rfl, done, dep, s, hdep, hs, ht⟩
        | false =>
            refine ih (done ++ [dep]) t ?_ (hstep done dep s t hdep hs ht) hrest
            rw [List.append_assoc, List.singleton_append, hdone]
  exact hfrom deps [] start rfl hstart h

theorem searchEach_false (hstart : reached [] start)
    (hstep : ∀ done dep s t, dep ∈ deps → reached done s → visit dep s = some (false, t) →
      reached (done ++ [dep]) t)
    (h : searchEach visit deps start = some (false, after)) : reached deps after := by
  obtain ⟨-, hafter⟩ | ⟨hfound, -⟩ := searchEach_outcome hstart hstep h
  · exact hafter
  · cases hfound

theorem searchEach_true (hstart : reached [] start)
    (hstep : ∀ done dep s t, dep ∈ deps → reached done s → visit dep s = some (false, t) →
      reached (done ++ [dep]) t)
    (h : searchEach visit deps start = some (true, after)) :
    ∃ done dep s, dep ∈ deps ∧ reached done s ∧ visit dep s = some (true, after) := by
  obtain ⟨hfound, -⟩ | ⟨-, hin⟩ := searchEach_outcome hstart hstep h
  · cases hfound
  · exact hin

theorem searchEach_returns {good : SearchState → Prop} (hstart : good start)
    (hstep : ∀ s, good s → ∀ dep ∈ deps, ∃ found t, visit dep s = some (found, t) ∧
      (found = false → good t)) :
    ∃ outcome, searchEach visit deps start = some outcome := by
  induction deps generalizing start with
  | nil => exact ⟨_, rfl⟩
  | cons dep rest ih =>
      obtain ⟨found, t, ht, hgood⟩ := hstep start hstart dep List.mem_cons_self
      unfold searchEach
      rw [ht]
      cases found with
      | true => exact ⟨_, rfl⟩
      | false =>
          obtain ⟨outcome, houtcome⟩ := ih (hgood rfl) fun s hs other hother =>
            hstep s hs other (List.mem_cons_of_mem _ hother)
          exact ⟨outcome, houtcome⟩

end SearchLoops

/-- What a search that finds nothing leaves: the keys that are being visited, and its own key
among those that have been. -/
structure Passed (key : String) (before after : SearchState) : Prop where
  visiting : after.visiting = before.visiting
  visited : before.visited ⊆ after.visited
  passed : key ∈ after.visited

structure PassedEach (start : SearchState) (done : List String) (state : SearchState) :
    Prop where
  visiting : state.visiting = start.visiting
  visited : start.visited ⊆ state.visited
  passed : ∀ dep ∈ done, dep ∈ state.visited

theorem PassedEach.start (start : SearchState) : PassedEach start [] start :=
  ⟨rfl, subset_rfl, by simp⟩

theorem PassedEach.then {start s t : SearchState} {done : List String} {dep : String}
    (h : PassedEach start done s) (hpassed : Passed dep s t) :
    PassedEach start (done ++ [dep]) t := by
  refine ⟨hpassed.visiting.trans h.visiting, h.visited.trans hpassed.visited, ?_⟩
  intro other hother
  obtain hearlier | hlast := List.mem_append.1 hother
  · exact hpassed.visited (h.passed other hearlier)
  · rw [List.mem_singleton.1 hlast]
    exact hpassed.passed

/-- A key that is entered, looked up and searched from. -/
def entering (key : String) (state : SearchState) : SearchState :=
  { state with visiting := insert key state.visiting }

def leaving (key : String) (state : SearchState) : SearchState where
  visited := insert key state.visited
  visiting := state.visiting.erase key

theorem search_cases {depth : Nat} {key : String} {state after : SearchState} {found : Bool}
    (h : input.search (depth + 1) key state = some (found, after)) :
    (key ∈ state.visiting ∧ found = true ∧ after = state) ∨
      (key ∉ state.visiting ∧ key ∈ state.visited ∧ found = false ∧ after = state) ∨
      (key ∉ state.visiting ∧ key ∉ state.visited ∧ ∃ looped,
        searchEach (input.search depth) (input.dependenciesOf key) (entering key state) =
            some (found, looped) ∧
          after = if found then looped else leaving key looped) := by
  unfold search at h
  split at h
  next hvisiting =>
      obtain ⟨hfound, hafter⟩ := Prod.mk.inj (Option.some.inj h)
      exact .inl ⟨hvisiting, hfound.symm, hafter.symm⟩
  next hvisiting =>
      split at h
      next hvisited =>
          obtain ⟨hfound, hafter⟩ := Prod.mk.inj (Option.some.inj h)
          exact .inr (.inl ⟨hvisiting, hvisited, hfound.symm, hafter.symm⟩)
      next hvisited =>
          obtain ⟨⟨foundIn, looped⟩, hloop, hafter⟩ := Option.bind_eq_some_iff.1 h
          refine .inr (.inr ⟨hvisiting, hvisited, looped, ?_⟩)
          cases foundIn with
          | true =>
              obtain ⟨rfl, rfl⟩ := Prod.mk.inj (Option.some.inj hafter)
              exact ⟨hloop, rfl⟩
          | false =>
              obtain ⟨rfl, rfl⟩ := Prod.mk.inj (Option.some.inj hafter)
              exact ⟨hloop, rfl⟩

theorem mem_dependenciesOf {key dep : String} :
    dep ∈ input.dependenciesOf key ↔ input.Requires key dep := by
  unfold dependenciesOf Requires
  cases input.lookup key with
  | none => simp
  | some item => simp

/-- **A search that finds nothing** has passed its key. -/
theorem search_passed {depth : Nat} {key : String} {state after : SearchState}
    (h : input.search depth key state = some (false, after)) : Passed key state after := by
  induction depth generalizing key state after with
  | zero => cases h
  | succ depth ih =>
      obtain ⟨-, hfound, -⟩ | ⟨-, hvisited, -, rfl⟩ | ⟨hvisiting, -, looped, hloop, rfl⟩ :=
        search_cases h
      · cases hfound
      · exact ⟨rfl, subset_rfl, hvisited⟩
      · have hpassed := searchEach_false (PassedEach.start (entering key state))
          (fun done dep s t _ hs ht => hs.then (ih ht)) hloop
        refine ⟨?_, hpassed.visited.trans (Finset.subset_insert _ _),
          Finset.mem_insert_self _ _⟩
        show looped.visiting.erase key = state.visiting
        rw [hpassed.visiting]
        exact Finset.erase_insert hvisiting

/-- Nothing that has been visited is on a cycle, or still being visited. -/
structure Explored (input : Dependencies T) (state : SearchState) : Prop where
  settled : Settled input.Requires state.visited
  apart : Disjoint state.visiting state.visited

/-- **A search that finds nothing** settles what it visits. -/
theorem search_explored {depth : Nat} {key : String} {state after : SearchState}
    (hexplored : Explored input state) (h : input.search depth key state = some (false, after)) :
    Explored input after := by
  induction depth generalizing key state after with
  | zero => cases h
  | succ depth ih =>
      obtain ⟨-, hfound, -⟩ | ⟨-, -, -, rfl⟩ | ⟨hvisiting, hvisited, looped, hloop, rfl⟩ :=
        search_cases h
      · cases hfound
      · exact hexplored
      · have hentered : Explored input (entering key state) :=
          ⟨hexplored.settled, Finset.disjoint_insert_left.2 ⟨hvisited, hexplored.apart⟩⟩
        let reached := fun done s => PassedEach (entering key state) done s ∧ Explored input s
        have hstart : reached [] (entering key state) := ⟨PassedEach.start _, hentered⟩
        obtain ⟨hpassed, hlooped⟩ : reached (input.dependenciesOf key) looped :=
          searchEach_false hstart
            (fun done dep s t _ hs ht => ⟨hs.1.then (search_passed ht), ih hs.2 ht⟩) hloop
        have hkey : key ∈ looped.visiting := by
          rw [hpassed.visiting]
          exact Finset.mem_insert_self _ _
        have hnew : key ∉ looped.visited := fun hin =>
          Finset.disjoint_left.1 hlooped.apart hkey hin
        refine ⟨hlooped.settled.insert hnew fun dep hdep => ?_, ?_⟩
        · exact hpassed.passed dep (mem_dependenciesOf.2 hdep)
        · refine Finset.disjoint_insert_right.2 ⟨Finset.notMem_erase _ _, ?_⟩
          exact hlooped.apart.mono_left (Finset.erase_subset _ _)

/-- **A search that finds something** has found a cycle: the key that is met again depends on
itself. -/
theorem search_found {depth : Nat} {key : String} {state after : SearchState}
    (habove : ∀ other ∈ state.visiting, TransGen input.Requires other key)
    (h : input.search depth key state = some (true, after)) :
    ∃ other, OnCycle input.Requires other := by
  induction depth generalizing key state after with
  | zero => cases h
  | succ depth ih =>
      obtain ⟨hvisiting, -, -⟩ | ⟨-, -, hfound, -⟩ | ⟨-, -, looped, hloop, -⟩ := search_cases h
      · exact ⟨key, habove key hvisiting⟩
      · cases hfound
      · obtain ⟨done, dep, s, hdep, hs, hfound⟩ :=
          searchEach_true (PassedEach.start (entering key state))
            (fun done dep s t _ hs ht => hs.then (search_passed ht)) hloop
        have hedge : input.Requires key dep := mem_dependenciesOf.1 hdep
        refine ih ?_ hfound
        intro other hother
        rw [hs.visiting] at hother
        obtain rfl | hold := Finset.mem_insert.1 hother
        · exact .single hedge
        · exact (habove other hold).tail hedge

/-- **A search returns**: each step down enters one more of the keys. -/
theorem search_returns (hkeys : (input.items.map input.getKey).Nodup) {depth : Nat}
    {key : String} {state : SearchState}
    (h : (input.unvisited (state.visited ∪ state.visiting)).card < depth) :
    ∃ found after, input.search depth key state = some (found, after) := by
  induction depth generalizing key state with
  | zero => exact absurd h (Nat.not_lt_zero _)
  | succ depth ih =>
      unfold search
      split
      next => exact ⟨_, _, rfl⟩
      next hvisiting =>
          split
          next => exact ⟨_, _, rfl⟩
          next hvisited =>
              let low := fun s : SearchState =>
                (input.unvisited (s.visited ∪ s.visiting)).card < depth
              have hstep : ∀ s, low s → ∀ dep ∈ input.dependenciesOf key, ∃ found t,
                  input.search depth dep s = some (found, t) ∧ (found = false → low t) := by
                intro s hs dep _
                obtain ⟨found, t, ht⟩ := @ih dep s hs
                refine ⟨found, t, ht, fun hnone => ?_⟩
                rw [hnone] at ht
                have hpassed := search_passed ht
                have hle : (input.unvisited (t.visited ∪ t.visiting)).card ≤
                    (input.unvisited (s.visited ∪ s.visiting)).card :=
                  card_unvisited_le (Finset.union_subset_union hpassed.visited
                    hpassed.visiting.ge)
                exact lt_of_le_of_lt hle hs
              obtain ⟨⟨found, looped⟩, hloop⟩ :
                  ∃ outcome, searchEach (input.search depth) (input.dependenciesOf key)
                    (entering key state) = some outcome := by
                cases hfound : input.lookup key with
                | none =>
                    refine ⟨(false, entering key state), ?_⟩
                    unfold dependenciesOf
                    rw [hfound]
                    rfl
                | some item =>
                    have hnew : key ∉ state.visited ∪ state.visiting := by
                      simp [hvisiting, hvisited]
                    have hless := card_unvisited_insert hkeys hfound hnew
                    rw [← Finset.union_insert] at hless
                    refine searchEach_returns ?_ hstep
                    show (input.unvisited (state.visited ∪ insert key state.visiting)).card <
                      depth
                    omega
              have hentering : searchEach (input.search depth) (input.dependenciesOf key)
                  { state with visiting := insert key state.visiting } =
                    some (found, looped) := hloop
              simp only [hentering]
              cases found with
              | true => exact ⟨_, _, rfl⟩
              | false => exact ⟨_, _, rfl⟩

/-- **The search returns**, and finds something exactly if a key depends on itself. -/
theorem hasCircularDependency_returns (hkeys : (input.items.map input.getKey).Nodup) :
    ∃ found, input.hasCircularDependency = some found ∧
      (found = true ↔ ∃ key, OnCycle input.Requires key) := by
  let fresh : SearchState := { visited := ∅, visiting := ∅ }
  obtain ⟨⟨found, after⟩, hsearch⟩ : ∃ outcome, searchEach (input.search input.depth)
      (input.items.map input.getKey) fresh = some outcome := by
    let always := fun _ : SearchState => True
    have hstart : always fresh := trivial
    refine searchEach_returns hstart fun s _ dep _ => ?_
    obtain ⟨found, t, ht⟩ : ∃ found t, input.search input.depth dep s = some (found, t) :=
      search_returns hkeys (card_unvisited_lt_depth _)
    exact ⟨found, t, ht, fun _ => trivial⟩
  refine ⟨found, by unfold hasCircularDependency; rw [hsearch]; rfl, ?_⟩
  let reached := fun done s => PassedEach fresh done s ∧ Explored input s
  have hstart : reached [] fresh :=
    ⟨PassedEach.start _, settled_empty, Finset.disjoint_empty_left _⟩
  have hstep : ∀ done dep s t, dep ∈ input.items.map input.getKey → reached done s →
      input.search input.depth dep s = some (false, t) → reached (done ++ [dep]) t :=
    fun done dep s t _ hs ht => ⟨hs.1.then (search_passed ht), search_explored hs.2 ht⟩
  cases found with
  | true =>
      refine iff_of_true rfl ?_
      obtain ⟨done, dep, s, -, hs, hfound⟩ := searchEach_true hstart hstep hsearch
      refine search_found ?_ hfound
      rw [hs.1.visiting]
      exact fun other hother => absurd hother (Finset.notMem_empty _)
  | false =>
      refine iff_of_false (by simp) ?_
      intro ⟨key, hcycle⟩
      obtain ⟨hpassed, hexplored⟩ := searchEach_false hstart hstep hsearch
      obtain ⟨dep, ⟨item, hfound, -⟩, -⟩ := TransGen.head'_iff.1 hcycle
      obtain ⟨⟨hitem, hname⟩, -⟩ := (lookup_eq_some hkeys).1 hfound
      exact hexplored.settled.acyclic key
        (hpassed.passed key (List.mem_map.2 ⟨item, hitem, hname⟩)) hcycle

/-- One of the items depends on another one. -/
def DependsOn (input : Dependencies T) (item other : T) : Prop :=
  item ∈ input.items ∧ other ∈ input.items ∧
    input.getKey other ∈ input.getDependencies item

/-- The items are sorted by their dependencies, and a cycle of them is found. -/
structure SortsByDependencies (input : Dependencies T) : Prop where
  permutes : ∃ result, input.topologicalSort = some result ∧ result.Perm input.items
  sorted : ∀ result, input.topologicalSort = some result →
    input.hasCircularDependency = some false → Ordered input.DependsOn result
  detects : ∃ found, input.hasCircularDependency = some found ∧
    (found = true ↔ ∃ item, OnCycle input.DependsOn item)

/-- Where no item is falsy, the cycles of the keys are those of the items. -/
theorem exists_cycle_iff (hkeys : (input.items.map input.getKey).Nodup)
    (htruthy : ∀ item ∈ input.items, input.truthy item = true) :
    (∃ key, OnCycle input.Requires key) ↔ ∃ item, OnCycle input.DependsOn item := by
  have hlookup : ∀ item ∈ input.items, input.lookup (input.getKey item) = some item :=
    fun item hitem => (lookup_eq_some hkeys).2 ⟨⟨hitem, rfl⟩, htruthy item hitem⟩
  constructor
  · intro ⟨key, hcycle⟩
    obtain ⟨dep, ⟨last, hlast, -⟩, -⟩ := TransGen.head'_iff.1 hcycle
    let named := fun item key => input.lookup key = some item
    have hover : ∀ item other a b, named item a → named other b → input.Requires a b →
        input.DependsOn item other := by
      intro item other a b hitem hother hab
      obtain ⟨found, hfound, hdep⟩ := hab
      obtain rfl : item = found := Option.some.inj (hitem.symm.trans hfound)
      have hnamed := ((lookup_eq_some hkeys).1 hother).1
      exact ⟨((lookup_eq_some hkeys).1 hitem).1.1, hnamed.1, by rw [hnamed.2]; exact hdep⟩
    obtain ⟨item, hitem, hpath⟩ :=
      transGen_of_named (fun a b hab => hab.imp fun _ h => h.1) hover hcycle hlast
    obtain rfl : item = last := Option.some.inj (hitem.symm.trans hlast)
    exact ⟨item, hpath⟩
  · intro ⟨item, hcycle⟩
    have hpath : TransGen input.DependsOn item item := hcycle
    refine ⟨input.getKey item, hpath.lift input.getKey ?_⟩
    intro first other hdepends
    exact ⟨first, hlookup first hdepends.1, hdepends.2.2⟩

/-- **Both functions do what they are for** exactly if no item is falsy. -/
theorem sortsByDependencies_iff (hkeys : (input.items.map input.getKey).Nodup) :
    SortsByDependencies input ↔ ∀ item ∈ input.items, input.truthy item = true := by
  obtain ⟨result, hsort, hnodup, hmem⟩ := topologicalSort_returns hkeys
  constructor
  · intro hsorts item hitem
    obtain ⟨other, hother, hperm⟩ := hsorts.permutes
    obtain rfl : result = other := Option.some.inj (hsort.symm.trans hother)
    exact ((hmem item).1 (hperm.mem_iff.2 hitem)).2
  · intro htruthy
    obtain ⟨found, hfound, hcycle⟩ := hasCircularDependency_returns hkeys
    refine ⟨⟨result, hsort, ?_⟩, ?_, found, hfound, ?_⟩
    · refine (List.perm_ext_iff_of_nodup hnodup.of_map hkeys.of_map).2 fun item => ?_
      rw [hmem]
      exact ⟨fun h => h.1, fun h => ⟨h, htruthy item h⟩⟩
    · intro other hother hnone before item after hsplit dep hdepends
      have hacyclic : ∀ key, ¬ OnCycle input.Requires key := by
        intro key hkey
        have hfalse : found = false := Option.some.inj (hfound.symm.trans hnone)
        rw [hfalse] at hcycle
        exact absurd (hcycle.2 ⟨key, hkey⟩) (by simp)
      refine topologicalSort_ordered hkeys hacyclic hother before item after hsplit dep ?_
      refine ⟨input.getKey dep, hdepends.2.2, ?_⟩
      exact (lookup_eq_some hkeys).2 ⟨⟨hdepends.2.1, rfl⟩, htruthy dep hdepends.2.1⟩
    · rw [hcycle, exists_cycle_iff hkeys htruthy]

end Search

end Dependencies

structure Module where
  name : String
  imports : List String
  deriving DecidableEq

def modules : Dependencies Module where
  items := [⟨"app", ["utils", "api"]⟩, ⟨"utils", []⟩, ⟨"api", ["utils"]⟩]
  getKey := Module.name
  getDependencies := Module.imports
  truthy _ := true

example : modules.topologicalSort.map (List.map Module.name) = some ["utils", "api", "app"] := by
  decide

/-- Objects are never falsy. -/
theorem modules_sorted : modules.SortsByDependencies :=
  (Dependencies.sortsByDependencies_iff (by decide)).2 (by decide)

/-- Labels under themselves, one of which is empty. -/
def labels : Dependencies String where
  items := ["", "a"]
  getKey := id
  getDependencies _ := []
  truthy label := label ≠ ""

/-- The empty label is not in the result. -/
theorem empty_label_dropped : (labels.items.map labels.getKey).Nodup ∧
    labels.topologicalSort = some ["a"] ∧ ¬ labels.SortsByDependencies := by
  have hsort : labels.topologicalSort = some ["a"] := by decide
  refine ⟨by decide, hsort, fun hsorts => ?_⟩
  obtain ⟨result, hresult, hperm⟩ := hsorts.permutes
  obtain rfl : ["a"] = result := Option.some.inj (hsort.symm.trans hresult)
  exact absurd hperm.length_eq (by decide)

end Algorithm

end Zentra
