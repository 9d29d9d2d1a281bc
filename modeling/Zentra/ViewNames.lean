import Zentra.DuckDBRouter

/-!
# Views under their names

The definitions that the router and its bridges store, each under the name of its view.

* `Keyed` — what is stored under a name is of that name;
* `get_restore`, `find?_eraseP` — views that are saved again, and views still to be restored.
-/

namespace Zentra.DuckDB

def CallKind.viewName : CallKind → Option String
  | .createView view => some view.name
  | .dropView name => some name
  | _ => none

section Views

variable {kind : CallKind} {d e : ViewDefinitions} {name : String}

theorem get_noteView_of_ne (h : kind.viewName ≠ some name) :
    (noteView kind d).get name = d.get name := by
  cases kind with
  | createView view => exact JsMap.get_set_of_ne fun heq => h (congrArg some heq.symm)
  | dropView other =>
      have hne : ¬ name = other := fun heq => h (congrArg some heq.symm)
      simp [noteView, JsMap.get_delete, hne]
  | _ => rfl

theorem noteView_eq_self (h : kind.viewName = none) : noteView kind d = d := by
  cases kind with
  | createView view => cases h
  | dropView name => cases h
  | _ => rfl

theorem get_noteView_congr (h : d.get name = e.get name) :
    (noteView kind d).get name = (noteView kind e).get name := by
  cases kind with
  | createView view => simp only [noteView, JsMap.get_set, h]
  | dropView other => simp only [noteView, JsMap.get_delete, h]
  | _ => exact h

theorem views_applyCall (bridge : Bridge) :
    (applyCall kind bridge).views = noteView kind bridge.views := by
  cases kind <;> rfl

theorem initialized_applyCall (bridge : Bridge) :
    (applyCall kind bridge).initialized = bridge.initialized := by
  cases kind <;> rfl

/-- Each definition is stored under its name. -/
def Keyed (d : ViewDefinitions) : Prop := ∀ entry ∈ d.entries, entry.1 = entry.2.name

theorem Keyed.noteView (h : Keyed d) (kind : CallKind) : Keyed (noteView kind d) := by
  intro entry hentry
  cases kind with
  | createView view =>
      obtain rfl | ⟨hold, -⟩ := JsMap.mem_set.1 hentry
      · rfl
      · exact h entry hold
  | dropView other => exact h entry (List.mem_filter.1 hentry).1
  | _ => exact h entry hentry

theorem Keyed.nodup (h : Keyed d) :
    ((d.entries.map Prod.snd).map ViewDefinition.name).Nodup := by
  have hnames : (d.entries.map Prod.snd).map ViewDefinition.name = d.entries.map Prod.fst := by
    rw [List.map_map]
    exact List.map_congr_left fun entry hentry => (h entry hentry).symm
  rw [hnames]
  exact d.distinct

theorem find?_of_nodup {views : List ViewDefinition}
    (hnodup : (views.map ViewDefinition.name).Nodup) {view : ViewDefinition} (h : view ∈ views) :
    views.find? (fun other => other.name = view.name) = some view := by
  cases hfind : views.find? (fun other => other.name = view.name) with
  | none => exact absurd (by simp) (List.find?_eq_none.1 hfind view h)
  | some found =>
      have hname : found.name = view.name := by simpa using List.find?_some hfind
      rw [List.inj_on_of_nodup_map hnodup (List.mem_of_find?_eq_some hfind) h hname]

theorem Keyed.find? (h : Keyed d) (name : String) :
    (d.entries.map Prod.snd).find? (fun view => view.name = name) = d.get name := by
  cases hget : d.get name with
  | none =>
      rw [List.find?_eq_none]
      intro view hview heq
      obtain ⟨entry, hentry, rfl⟩ := List.mem_map.1 hview
      refine JsMap.get_eq_none.1 hget entry hentry ?_
      simpa [h entry hentry] using heq
  | some view =>
      have hmem := JsMap.get_eq_some.1 hget
      have hname : view.name = name := (h _ hmem).symm
      rw [← hname]
      exact find?_of_nodup h.nodup (List.mem_map_of_mem hmem)

/-- Storing what is already stored changes nothing that is found. -/
theorem get_restore (l : List (String × ViewDefinition)) (d : ViewDefinitions)
    (h : ∀ entry ∈ l, d.get entry.2.name = some entry.2) (name : String) :
    (l.foldl (fun definitions entry => definitions.set entry.2.name entry.2) d).get name =
      d.get name := by
  induction l generalizing d with
  | nil => rfl
  | cons entry rest ih =>
      have hsame : ∀ other, (d.set entry.2.name entry.2).get other = d.get other := by
        intro other
        rw [JsMap.get_set]
        split
        next heq =>
          rw [heq, h entry List.mem_cons_self]
        · rfl
      rw [List.foldl_cons, ih _ fun other hother => ?_, hsame]
      rw [hsame]
      exact h other (List.mem_cons_of_mem _ hother)

theorem Keyed.restore (l : List (String × ViewDefinition)) (h : Keyed d) :
    Keyed (l.foldl (fun definitions entry => definitions.set entry.2.name entry.2) d) := by
  induction l generalizing d with
  | nil => exact h
  | cons entry rest ih =>
      refine ih fun other hother => ?_
      obtain rfl | ⟨hold, -⟩ := JsMap.mem_set.1 hother
      · rfl
      · exact h other hold

theorem find?_eraseP {views : List ViewDefinition}
    (hnodup : (views.map ViewDefinition.name).Nodup) (taken name : String) :
    (views.eraseP fun view => view.name = taken).find? (fun view => view.name = name) =
      if name = taken then none else views.find? fun view => view.name = name := by
  induction views with
  | nil => simp
  | cons view rest ih =>
      obtain ⟨hnot, hrest⟩ := List.nodup_cons.1 hnodup
      by_cases htaken : view.name = taken
      · subst htaken
        rw [List.eraseP_cons_of_pos (by simp)]
        by_cases hname : name = view.name
        · subst hname
          rw [if_pos rfl, List.find?_eq_none]
          intro other hother heq
          exact hnot (List.mem_map.2 ⟨other, hother, by simpa using heq⟩)
        · rw [if_neg hname, List.find?_cons_of_neg (by simpa using Ne.symm hname)]
      · rw [List.eraseP_cons_of_neg (by simpa using htaken)]
        by_cases hname : view.name = name
        · subst hname
          rw [List.find?_cons_of_pos (by simp), if_neg htaken, List.find?_cons_of_pos (by simp)]
        · rw [List.find?_cons_of_neg (by simpa using hname), ih hrest,
            List.find?_cons_of_neg (by simpa using hname)]

end Views

end Zentra.DuckDB
