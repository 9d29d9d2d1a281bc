/-!
# Lists with one entry changed

A table of objects that are known by their index: one of them changes, the others stay.

* `any_modify` — a property of the entry at an index;
* `mem_modify` — what is in the changed list.
-/

namespace ModifiedList

variable {α : Type} (l : List α) (f : α → α)

theorem any_modify (p : α → Bool) (i j : Nat) : (l.modify i f)[j]?.any p =
    if i = j then l[j]?.any (p ∘ f) else l[j]?.any p := by
  rw [List.getElem?_modify]
  split
  · cases l[j]? with
    | none => rfl
    | some x => rfl
  · cases l[j]? with
    | none => rfl
    | some x => rfl

theorem any_modify_of_eq {p : α → Bool} (h : ∀ x, p (f x) = p x) (i j : Nat) :
    (l.modify i f)[j]?.any p = l[j]?.any p := by
  have hsame : p ∘ f = p := funext h
  rw [any_modify, hsame, ite_self]

theorem map_modify {β : Type} (g : α → β) (i j : Nat) : (l.modify i f)[j]?.map g =
    if i = j then l[j]?.map (g ∘ f) else l[j]?.map g := by
  rw [List.getElem?_modify]
  split
  · cases l[j]? with
    | none => rfl
    | some x => rfl
  · cases l[j]? with
    | none => rfl
    | some x => rfl

variable {l f}

theorem mem_modify {i : Nat} {x : α} (h : x ∈ l.modify i f) :
    x ∈ l ∨ ∃ y ∈ l[i]?, x = f y := by
  obtain ⟨j, hget⟩ := List.mem_iff_getElem?.1 h
  rw [List.getElem?_modify] at hget
  by_cases hij : i = j
  · subst hij
    right
    cases hbefore : l[i]? with
    | none => simp [hbefore] at hget
    | some y =>
        rw [hbefore] at hget
        have hafter := Option.some.inj hget
        dsimp only at hafter
        rw [if_pos rfl] at hafter
        exact ⟨y, rfl, hafter.symm⟩
  · left
    refine List.mem_iff_getElem?.2 ⟨j, ?_⟩
    simpa [hij] using hget

end ModifiedList
