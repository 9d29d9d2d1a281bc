import Mathlib.Data.Finset.Card
import Mathlib.Data.Finset.SDiff
import Mathlib.Data.List.Perm.Lattice
import Zentra.DependencyGraph
import Zentra.JsMap

/-!
# Sorting by dependencies

`topologicalSort` visits the items depth first, and appends an item after the items it depends
on.  It looks an item up by its key and takes what is falsy for missing.

* `visit_ordered` — the order, where nothing depends on itself;
* `topologicalSort_returns`, `topologicalSort_ordered` — the result.
-/

open DependencyGraph Relation

namespace Zentra

namespace Algorithm

/-- The arguments of the two functions, and how JavaScript reads an item as a condition. -/
structure Dependencies (T : Type) where
  items : List T
  getKey : T → String
  getDependencies : T → List String
  truthy : T → Bool

namespace Dependencies

variable {T : Type} (input : Dependencies T)

def itemMap : JsMap String T :=
  JsMap.keyed input.getKey input.items

/-- `itemMap.get(key)`, unless it is falsy. -/
def lookup (key : String) : Option T := (input.itemMap.get key).filter input.truthy

/-- More than the depth of any search. -/
def depth : Nat := input.items.length + 1

/-- `visited` and `result`. -/
structure SortState (T : Type) where
  visited : Finset String
  result : List T

/-- `visit` of `topologicalSort`, to some depth. -/
def visit : Nat → String → SortState T → Option (SortState T)
  | 0, _, _ => none
  | depth + 1, key, state =>
      if key ∈ state.visited then
        some state
      else
        let visited := { state with visited := insert key state.visited }
        match input.lookup key with
        | none => some visited
        | some item => do
            let after ← (input.getDependencies item).foldlM
              (fun state dep => visit depth dep state) visited
            return { after with result := after.result ++ [item] }

def topologicalSort : Option (List T) := do
  let after ← input.items.foldlM (fun state item =>
    input.visit input.depth (input.getKey item) state) { visited := ∅, result := [] }
  return after.result

/-- A key depends on the keys that its item names. -/
def Requires (key dep : String) : Prop :=
  ∃ item, input.lookup key = some item ∧ dep ∈ input.getDependencies item

/-- An item depends on the items that are found under the keys that it names. -/
def ItemRequires (item other : T) : Prop :=
  ∃ dep ∈ input.getDependencies item, input.lookup dep = some other

variable {input}

theorem lookup_eq_some (hkeys : (input.items.map input.getKey).Nodup) {key : String} {item : T} :
    input.lookup key = some item ↔
      (item ∈ input.items ∧ input.getKey item = key) ∧ input.truthy item = true := by
  unfold lookup itemMap
  rw [Option.filter_eq_some_iff, JsMap.get_keyed hkeys]

section Loops

variable {σ β : Type}

/-- What every step of a loop keeps, a loop that returns has kept. -/
theorem foldlM_keeps {f : σ → β → Option σ} {list : List β} {P : List β → σ → Prop}
    {start after : σ} (hstart : P [] start)
    (hstep : ∀ done b s t, b ∈ list → P done s → f s b = some t → P (done ++ [b]) t)
    (h : list.foldlM f start = some after) : P list after := by
  have hfrom : ∀ rest done s, done ++ rest = list → P done s → rest.foldlM f s = some after →
      P list after := by
    intro rest
    induction rest with
    | nil =>
        intro done s hdone hs hafter
        rw [List.foldlM_nil] at hafter
        obtain rfl : s = after := Option.some.inj hafter
        rw [List.append_nil] at hdone
        exact hdone ▸ hs
    | cons b rest ih =>
        intro done s hdone hs hafter
        rw [List.foldlM_cons] at hafter
        obtain ⟨t, ht, hrest⟩ := Option.bind_eq_some_iff.1 hafter
        have hb : b ∈ list := by
          rw [← hdone]
          exact List.mem_append_right _ List.mem_cons_self
        refine ih (done ++ [b]) t ?_ (hstep done b s t hb hs ht) hrest
        rw [List.append_assoc, List.singleton_append, hdone]
  exact hfrom list [] start rfl hstart h

theorem foldlM_returns {f : σ → β → Option σ} {list : List β} {good : σ → Prop} {start : σ}
    (hstart : good start) (hstep : ∀ s, good s → ∀ b ∈ list, ∃ t, f s b = some t ∧ good t) :
    ∃ after, list.foldlM f start = some after ∧ good after := by
  induction list generalizing start with
  | nil => exact ⟨start, rfl, hstart⟩
  | cons b rest ih =>
      obtain ⟨t, ht, hgood⟩ := hstep start hstart b List.mem_cons_self
      obtain ⟨after, hafter, hend⟩ := ih hgood fun s hs c hc =>
        hstep s hs c (List.mem_cons_of_mem _ hc)
      refine ⟨after, ?_, hend⟩
      rw [List.foldlM_cons, ht]
      exact hafter

end Loops

/-- What was added to the result are the items that have been visited since. -/
structure Grows (input : Dependencies T) (before after : SortState T) : Prop where
  visited : before.visited ⊆ after.visited
  result : ∃ added, after.result = before.result ++ added ∧
    (added.map input.getKey).Nodup ∧ ∀ item, item ∈ added ↔
      input.lookup (input.getKey item) = some item ∧ input.getKey item ∈ after.visited ∧
        input.getKey item ∉ before.visited

theorem Grows.refl (state : SortState T) : Grows input state state where
  visited := subset_rfl
  result := ⟨[], by simp, by simp, by simp⟩

theorem Grows.trans {first second third : SortState T} (h : Grows input first second)
    (h' : Grows input second third) : Grows input first third := by
  obtain ⟨added, hresult, hnodup, hadded⟩ := h.result
  obtain ⟨added', hresult', hnodup', hadded'⟩ := h'.result
  refine ⟨h.visited.trans h'.visited, added ++ added', ?_, ?_, ?_⟩
  · rw [hresult', hresult, List.append_assoc]
  · rw [List.map_append]
    refine List.nodup_append.2 ⟨hnodup, hnodup', ?_⟩
    intro key hkey other hother hsame
    obtain ⟨item, hitem, rfl⟩ := List.mem_map.1 hkey
    obtain ⟨item', hitem', rfl⟩ := List.mem_map.1 hother
    exact ((hadded' item').1 hitem').2.2 (hsame ▸ ((hadded item).1 hitem).2.1)
  · intro item
    rw [List.mem_append, hadded, hadded']
    constructor
    · intro hitem
      obtain ⟨hfound, hin, hout⟩ | ⟨hfound, hin, hout⟩ := hitem
      · exact ⟨hfound, h'.visited hin, hout⟩
      · exact ⟨hfound, hin, fun hold => hout (h.visited hold)⟩
    · intro ⟨hfound, hin, hout⟩
      by_cases hbetween : input.getKey item ∈ second.visited
      · exact .inl ⟨hfound, hbetween, hout⟩
      · exact .inr ⟨hfound, hin, hbetween⟩

theorem Grows.mem_result {before after : SortState T} (h : Grows input before after) {item : T}
    (hitem : item ∈ before.result) : item ∈ after.result := by
  obtain ⟨added, hresult, -, -⟩ := h.result
  rw [hresult]
  exact List.mem_append_left _ hitem

theorem grows_loop {β : Type} {keyOf : β → String} {depth : Nat} {list : List β}
    {start after : SortState T}
    (hvisit : ∀ key state next, input.visit depth key state = some next →
      Grows input state next ∧ key ∈ next.visited)
    (h : list.foldlM (fun state b => input.visit depth (keyOf b) state) start = some after) :
    Grows input start after ∧ ∀ b ∈ list, keyOf b ∈ after.visited := by
  let reached := fun (done : List β) (state : SortState T) =>
    Grows input start state ∧ ∀ b ∈ done, keyOf b ∈ state.visited
  have hstart : reached [] start := ⟨.refl start, by simp⟩
  refine foldlM_keeps hstart ?_ h
  intro done b s t _ hs ht
  obtain ⟨hgrows, hb⟩ := hvisit _ _ _ ht
  refine ⟨hs.1.trans hgrows, ?_⟩
  intro c hc
  obtain hearlier | hlast := List.mem_append.1 hc
  · exact hgrows.visited (hs.2 c hearlier)
  · rw [List.mem_singleton.1 hlast]
    exact hb

/-- **A visit** adds the items under the keys that it visits, and visits its own key. -/
theorem grows_visit (hkeys : (input.items.map input.getKey).Nodup) {depth : Nat} {key : String}
    {state after : SortState T} (h : input.visit depth key state = some after) :
    Grows input state after ∧ key ∈ after.visited := by
  induction depth generalizing key state after with
  | zero => cases h
  | succ depth ih =>
      unfold visit at h
      split at h
      next hkey =>
          obtain rfl : state = after := Option.some.inj h
          exact ⟨.refl state, hkey⟩
      next hkey =>
          have hkeyonly : ∀ item, input.getKey item ∈ insert key state.visited →
              input.getKey item ∉ state.visited → input.getKey item = key :=
            fun item hin hout => (Finset.mem_insert.1 hin).resolve_right hout
          cases hfound : input.lookup key with
          | none =>
              simp only [hfound] at h
              obtain rfl := Option.some.inj h
              refine ⟨⟨Finset.subset_insert _ _, [], by simp, by simp, ?_⟩,
                Finset.mem_insert_self _ _⟩
              intro item
              refine iff_of_false List.not_mem_nil fun ⟨hitem, hin, hout⟩ => ?_
              rw [hkeyonly item hin hout, hfound] at hitem
              cases hitem
          | some item =>
              simp only [hfound] at h
              obtain ⟨looped, hloop, hafter⟩ := Option.bind_eq_some_iff.1 h
              obtain rfl := Option.some.inj hafter
              have hgrows := (grows_loop (fun _ _ _ => ih) hloop).1
              obtain ⟨added, hresult, hnodup, hadded⟩ := hgrows.result
              have hitem : input.getKey item = key := ((lookup_eq_some hkeys).1 hfound).1.2
              refine ⟨⟨(Finset.subset_insert _ _).trans hgrows.visited, added ++ [item], ?_, ?_,
                ?_⟩, hgrows.visited (Finset.mem_insert_self _ _)⟩
              · show looped.result ++ [item] = _
                rw [hresult, List.append_assoc]
              · rw [List.map_append]
                refine List.nodup_append.2 ⟨hnodup, List.nodup_singleton _, ?_⟩
                intro other hother last hlast hsame
                obtain ⟨earlier, hearlier, rfl⟩ := List.mem_map.1 hother
                rw [List.mem_singleton.1 hlast, hitem] at hsame
                refine ((hadded earlier).1 hearlier).2.2 ?_
                rw [hsame]
                exact Finset.mem_insert_self _ _
              · intro other
                rw [List.mem_append, List.mem_singleton, hadded]
                constructor
                · intro hother
                  obtain ⟨hlook, hin, hout⟩ | rfl := hother
                  · exact ⟨hlook, hin, fun hold => hout (Finset.mem_insert_of_mem hold)⟩
                  · rw [hitem]
                    exact ⟨hfound, hgrows.visited (Finset.mem_insert_self _ _), hkey⟩
                · intro ⟨hlook, hin, hout⟩
                  by_cases hsame : input.getKey other = key
                  · rw [hsame, hfound] at hlook
                    exact .inr (Option.some.inj hlook).symm
                  · refine .inl ⟨hlook, hin, fun hold => ?_⟩
                    exact (Finset.mem_insert.1 hold).elim hsame hout

/-- The keys of the items that have not been visited. -/
def unvisited (input : Dependencies T) (visited : Finset String) : Finset String :=
  (input.items.map input.getKey).toFinset \ visited

theorem card_unvisited_insert (hkeys : (input.items.map input.getKey).Nodup) {key : String}
    {item : T} {visited : Finset String} (hfound : input.lookup key = some item)
    (hkey : key ∉ visited) :
    (input.unvisited (insert key visited)).card < (input.unvisited visited).card := by
  obtain ⟨⟨hitem, hname⟩, -⟩ := (lookup_eq_some hkeys).1 hfound
  have hmem : key ∈ input.unvisited visited := by
    rw [unvisited, Finset.mem_sdiff, List.mem_toFinset]
    exact ⟨List.mem_map.2 ⟨item, hitem, hname⟩, hkey⟩
  refine Finset.card_lt_card ((Finset.ssubset_iff_of_subset ?_).2 ⟨key, hmem, ?_⟩)
  · exact Finset.sdiff_subset_sdiff subset_rfl (Finset.subset_insert _ _)
  · intro hin
    exact (Finset.mem_sdiff.1 hin).2 (Finset.mem_insert_self _ _)

theorem card_unvisited_le {visited later : Finset String} (h : visited ⊆ later) :
    (input.unvisited later).card ≤ (input.unvisited visited).card :=
  Finset.card_le_card (Finset.sdiff_subset_sdiff subset_rfl h)

/-- **A visit returns**: each step down visits one more of the keys. -/
theorem visit_returns (hkeys : (input.items.map input.getKey).Nodup) {depth : Nat} {key : String}
    {state : SortState T} (h : (input.unvisited state.visited).card < depth) :
    ∃ after, input.visit depth key state = some after := by
  induction depth generalizing key state with
  | zero => exact absurd h (Nat.not_lt_zero _)
  | succ depth ih =>
      unfold visit
      split
      next => exact ⟨state, rfl⟩
      next hkey =>
          cases hfound : input.lookup key with
          | none => exact ⟨_, rfl⟩
          | some item =>
              have hless := card_unvisited_insert hkeys hfound hkey
              let low := fun state : SortState T => (input.unvisited state.visited).card < depth
              have hstart : low { state with visited := insert key state.visited } := by
                show (input.unvisited (insert key state.visited)).card < depth
                omega
              obtain ⟨looped, hloop, -⟩ := foldlM_returns hstart
                (fun s hs dep (_ : dep ∈ input.getDependencies item) => by
                  obtain ⟨t, ht⟩ := @ih dep s hs
                  have hle : (input.unvisited t.visited).card ≤
                      (input.unvisited s.visited).card :=
                    card_unvisited_le (grows_visit hkeys ht).1.visited
                  exact ⟨t, ht, lt_of_le_of_lt hle hs⟩)
              exact ⟨_, by simp only [hloop]; rfl⟩

/-- What is being visited depends on what is going to be visited. -/
def Above (input : Dependencies T) (state : SortState T) (key : String) : Prop :=
  ∀ other ∈ state.visited, ∀ item, input.lookup other = some item → item ∉ state.result →
    TransGen input.Requires other key

theorem Above.grows (hkeys : (input.items.map input.getKey).Nodup) {before after : SortState T}
    {key : String} (h : Above input before key) (hgrows : Grows input before after) :
    Above input after key := by
  intro other hother item hfound hout
  by_cases hold : other ∈ before.visited
  · exact h other hold item hfound fun hin => hout (hgrows.mem_result hin)
  · obtain ⟨added, hresult, -, hadded⟩ := hgrows.result
    have hname : input.getKey item = other := ((lookup_eq_some hkeys).1 hfound).1.2
    have hin : item ∈ added := by
      rw [hadded, hname]
      exact ⟨hfound, hother, hold⟩
    rw [hresult] at hout
    exact absurd (List.mem_append_right _ hin) hout

/-- **A visit keeps the order**, where nothing depends on itself: what is found under its key is
in the result afterwards, and not only being visited. -/
theorem visit_ordered (hkeys : (input.items.map input.getKey).Nodup)
    (hacyclic : ∀ key, ¬ OnCycle input.Requires key) {depth : Nat} {key : String}
    {state after : SortState T} (habove : Above input state key)
    (hordered : Ordered input.ItemRequires state.result)
    (h : input.visit depth key state = some after) :
    Ordered input.ItemRequires after.result ∧
      ∀ item, input.lookup key = some item → item ∈ after.result := by
  induction depth generalizing key state after with
  | zero => cases h
  | succ depth ih =>
      unfold visit at h
      split at h
      next hkey =>
          obtain rfl : state = after := Option.some.inj h
          refine ⟨hordered, fun item hfound => ?_⟩
          by_contra hout
          exact hacyclic key (habove key hkey item hfound hout)
      next hkey =>
          cases hfound : input.lookup key with
          | none =>
              simp only [hfound] at h
              obtain rfl := Option.some.inj h
              exact ⟨hordered, fun item hitem => by cases hitem⟩
          | some item =>
              simp only [hfound] at h
              obtain ⟨looped, hloop, hafter⟩ := Option.bind_eq_some_iff.1 h
              obtain rfl := Option.some.inj hafter
              have hbelow : ∀ dep ∈ input.getDependencies item,
                  Above input { state with visited := insert key state.visited } dep := by
                intro dep hdep other hother found hlook hout
                have hedge : input.Requires key dep := ⟨item, hfound, hdep⟩
                obtain rfl | hold := Finset.mem_insert.1 hother
                · exact .single hedge
                · exact (habove other hold found hlook hout).tail hedge
              let sorted := fun (done : List String) (s : SortState T) =>
                Grows input { state with visited := insert key state.visited } s ∧
                  Ordered input.ItemRequires s.result ∧
                    ∀ dep ∈ done, ∀ other, input.lookup dep = some other → other ∈ s.result
              have hstart : sorted [] { state with visited := insert key state.visited } :=
                ⟨.refl _, hordered, by simp⟩
              obtain ⟨-, hloopordered, hdeps⟩ := foldlM_keeps hstart (fun done dep s t hdep hs ht => by
                obtain ⟨hgrown, hsorted, hdone⟩ := hs
                have hgrows := (grows_visit hkeys ht).1
                obtain ⟨hthen, hfoundthen⟩ := ih ((hbelow dep hdep).grows hkeys hgrown) hsorted ht
                refine ⟨hgrown.trans hgrows, hthen, ?_⟩
                intro other hother found hlook
                obtain hearlier | hlast := List.mem_append.1 hother
                · exact hgrows.mem_result (hdone other hearlier found hlook)
                · rw [List.mem_singleton.1 hlast] at hlook
                  exact hfoundthen found hlook) hloop
              refine ⟨hloopordered.snoc ?_, ?_⟩
              · intro other hrequires
                obtain ⟨dep, hdep, hlook⟩ := hrequires
                exact hdeps dep hdep other hlook
              · intro other hother
                rw [← Option.some.inj hother]
                exact List.mem_append_right _ List.mem_cons_self

theorem card_unvisited_lt_depth (visited : Finset String) :
    (input.unvisited visited).card < input.depth := by
  have hkeys : (input.unvisited visited).card ≤ (input.items.map input.getKey).toFinset.card :=
    Finset.card_le_card Finset.sdiff_subset
  have hlength := (input.items.map input.getKey).toFinset_card_le
  rw [List.length_map] at hlength
  unfold depth
  omega

/-- **The sort returns** the items that are not falsy, each of them once. -/
theorem topologicalSort_returns (hkeys : (input.items.map input.getKey).Nodup) :
    ∃ result, input.topologicalSort = some result ∧ (result.map input.getKey).Nodup ∧
      ∀ item, item ∈ result ↔ item ∈ input.items ∧ input.truthy item = true := by
  obtain ⟨after, hafter, -⟩ : ∃ after, input.items.foldlM (fun state item =>
      input.visit input.depth (input.getKey item) state) { visited := ∅, result := [] } =
        some after ∧ True := by
    refine foldlM_returns trivial fun s _ item _ => ?_
    obtain ⟨t, ht⟩ := visit_returns hkeys (card_unvisited_lt_depth s.visited)
    exact ⟨t, ht, trivial⟩
  obtain ⟨hgrows, hvisited⟩ := grows_loop (fun _ _ _ => grows_visit hkeys) hafter
  obtain ⟨added, hresult, hnodup, hadded⟩ := hgrows.result
  rw [List.nil_append] at hresult
  refine ⟨after.result, by unfold topologicalSort; rw [hafter]; rfl, ?_, ?_⟩
  · rw [hresult]
    exact hnodup
  · intro item
    rw [hresult, hadded, lookup_eq_some hkeys]
    constructor
    · intro hitem
      exact ⟨hitem.1.1.1, hitem.1.2⟩
    · intro hitem
      exact ⟨⟨⟨hitem.1, rfl⟩, hitem.2⟩, hvisited item hitem.1, Finset.notMem_empty _⟩

/-- **The sort is ordered**, where nothing depends on itself. -/
theorem topologicalSort_ordered (hkeys : (input.items.map input.getKey).Nodup)
    (hacyclic : ∀ key, ¬ OnCycle input.Requires key) {result : List T}
    (h : input.topologicalSort = some result) : Ordered input.ItemRequires result := by
  obtain ⟨after, hafter, hresult⟩ := Option.bind_eq_some_iff.1 h
  obtain rfl : after.result = result := Option.some.inj hresult
  let sorted := fun (_ : List T) (s : SortState T) =>
    Grows input { visited := ∅, result := [] } s ∧ Ordered input.ItemRequires s.result
  have hstart : sorted [] { visited := ∅, result := [] } := ⟨.refl _, ordered_nil⟩
  have hend : sorted input.items after := by
    refine foldlM_keeps hstart ?_ hafter
    intro done item s t _ hs ht
    have hnothing : Above input { visited := ∅, result := [] } (input.getKey item) :=
      fun other hother => absurd hother (Finset.notMem_empty _)
    exact ⟨hs.1.trans (grows_visit hkeys ht).1,
      (visit_ordered hkeys hacyclic (hnothing.grows hkeys hs.1) hs.2 ht).1⟩
  exact hend.2

end Dependencies

end Algorithm

end Zentra
