import Mathlib.Algebra.Order.BigOperators.Group.Finset
import Mathlib.Data.List.Nodup
import Mathlib.Tactic.Ring

/-!
# Walks over a list of edges

A walk leaves every node along an edge of the list.  Some of the edges are marked.
Nothing is said about how a walk is chosen.

* `IsWalk` — the walks from a node;
* `IsWalk.length_lt_of_nodup` — a walk that never returns is shorter than the number of
  nodes;
* `IsWalk.length_lt` — a bound for the walks without a marked edge gives one for the
  walks with a given number of them;
* `length_le_of_count_le` — a bound for how often each value occurs gives one for the
  length of a list.
-/

namespace EdgeWalks

variable {ν ε κ : Type} (source target : ε → ν)

/-- `IsWalk source target edges v walk`: the edges of `walk` lead on from `v`. -/
def IsWalk (edges : List ε) : ν → List ε → Prop
  | _, [] => True
  | v, e :: walk => e ∈ edges ∧ source e = v ∧ IsWalk edges (target e) walk

def finish : ν → List ε → ν
  | v, [] => v
  | _, e :: walk => finish (target e) walk

variable {source target} {edges walk before : List ε} {v : ν} {e : ε}

theorem IsWalk.snoc (h : IsWalk source target edges v walk) (he : e ∈ edges)
    (hsource : source e = finish target v walk) :
    IsWalk source target edges v (walk ++ [e]) := by
  induction walk generalizing v with
  | nil => exact ⟨he, hsource, trivial⟩
  | cons first rest ih =>
      obtain ⟨hmem, hfirst, hrest⟩ := h
      exact ⟨hmem, hfirst, ih hrest hsource⟩

@[simp] theorem finish_snoc : finish target v (walk ++ [e]) = target e := by
  induction walk generalizing v with
  | nil => rfl
  | cons first rest ih => exact ih

theorem IsWalk.of_append {rest : List ε}
    (h : IsWalk source target edges v (before ++ rest)) :
    IsWalk source target edges v before ∧
      IsWalk source target edges (finish target v before) rest := by
  induction before generalizing v with
  | nil => exact ⟨trivial, h⟩
  | cons first before ih =>
      obtain ⟨hmem, hfirst, hrest⟩ := h
      obtain ⟨hbefore, hafter⟩ := ih hrest
      exact ⟨⟨hmem, hfirst, hbefore⟩, hafter⟩

theorem IsWalk.subset (h : IsWalk source target edges v walk) : walk ⊆ edges := by
  induction walk generalizing v with
  | nil => simp
  | cons first rest ih =>
      obtain ⟨hmem, -, hrest⟩ := h
      exact List.cons_subset.mpr ⟨hmem, ih hrest⟩

/-- A walk over distinct nodes of a list is shorter than the list. -/
theorem IsWalk.length_lt_of_nodup [DecidableEq ν] {nodes : List ν}
    (hnodup : (v :: walk.map target).Nodup) (hv : v ∈ nodes)
    (hwalk : ∀ e ∈ walk, target e ∈ nodes) : walk.length < nodes.length := by
  have hsub : (v :: walk.map target) ⊆ nodes := by
    intro u hu
    rcases List.mem_cons.mp hu with rfl | hu
    · exact hv
    · obtain ⟨e, he, rfl⟩ := List.mem_map.mp hu
      exact hwalk e he
  have hle := (hnodup.subperm hsub).length_le
  simp only [List.length_cons, List.length_map] at hle
  omega

/-- **Marked walks.**  When the walks without a marked edge are shorter than `n`, a walk
with `m` marked edges is shorter than `(m + 1) * n`. -/
theorem IsWalk.length_lt {marked : ε → Bool} {n : Nat}
    (hplain : ∀ v walk, IsWalk source target edges v walk →
      (∀ e ∈ walk, marked e = false) → walk.length < n)
    (h : IsWalk source target edges v walk) :
    walk.length < (walk.countP marked + 1) * n := by
  -- the edges since the last marked one are carried along
  have hgen : ∀ (walk before : List ε) (v : ν), (∀ e ∈ before, marked e = false) →
      IsWalk source target edges v (before ++ walk) →
      before.length + walk.length < (walk.countP marked + 1) * n := by
    intro walk
    induction walk with
    | nil =>
        intro before v hbefore h
        have := hplain v before (by simpa using h) hbefore
        simpa using this
    | cons e walk ih =>
        intro before v hbefore h
        cases hmark : marked e with
        | false =>
            have hlonger : ∀ e' ∈ before ++ [e], marked e' = false := by
              intro e' he'
              rcases List.mem_append.mp he' with hin | hin
              · exact hbefore e' hin
              · rwa [List.mem_singleton.mp hin]
            have hshift := ih (before ++ [e]) v hlonger (by simpa using h)
            simp only [List.length_append, List.length_cons, List.length_nil,
              List.countP_cons, hmark] at hshift ⊢
            simp only [Bool.false_eq_true, if_false, Nat.add_zero]
            omega
        | true =>
            obtain ⟨hfirst, hrest⟩ := h.of_append
            have hlt := hplain v before hfirst hbefore
            have hafter := ih [] (target e) (by simp) hrest.2.2
            simp only [List.length_nil, Nat.zero_add] at hafter
            simp only [List.length_cons, List.countP_cons, hmark, if_true]
            have hmul : (walk.countP marked + 1 + 1) * n =
                (walk.countP marked + 1) * n + n := by ring
            omega
  simpa using hgen walk [] v (by simp) (by simpa using h)

theorem length_le_of_count_le [DecidableEq κ] {l values : List κ} {m : Nat}
    (hsub : l ⊆ values) (hcount : ∀ x ∈ l, l.count x ≤ m) :
    l.length ≤ values.length * m := by
  calc l.length = ∑ x ∈ l.toFinset, l.count x := (List.sum_toFinset_count_eq_length l).symm
    _ ≤ ∑ _x ∈ l.toFinset, m :=
        Finset.sum_le_sum fun x hx => hcount x (List.mem_toFinset.mp hx)
    _ = l.toFinset.card * m := by simp
    _ ≤ values.length * m := by
        refine Nat.mul_le_mul_right m ?_
        calc l.toFinset.card ≤ values.toFinset.card :=
              Finset.card_le_card fun x hx =>
                List.mem_toFinset.mpr (hsub (List.mem_toFinset.mp hx))
          _ ≤ values.length := values.toFinset_card_le

end EdgeWalks
