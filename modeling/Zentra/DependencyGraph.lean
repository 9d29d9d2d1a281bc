import Mathlib.Data.Finset.Insert
import Mathlib.Logic.Relation

/-!
# Graphs of dependencies

A graph is a relation between nodes: `edge n m` when `n` depends on `m`.

* `OnCycle` — a node that depends on itself, in one step or more;
* `Ordered` — a list in which every node comes after what it depends on, and `Ordered.snoc`;
* `Settled` — a set of nodes that is left by no edge and has no node on a cycle, and
  `Settled.insert`: a node can join when all that it depends on has;
* `transGen_of_named` — a path between the names of nodes is one between the nodes.
-/

open Relation

namespace DependencyGraph

variable {N M : Type} {edge : N → N → Prop}

/-- A node that depends on itself, in one step or more. -/
def OnCycle (edge : N → N → Prop) (n : N) : Prop := TransGen edge n n

/-- Every node comes after the nodes that it depends on. -/
def Ordered (edge : N → N → Prop) (order : List N) : Prop :=
  ∀ before n after, order = before ++ n :: after → ∀ m, edge n m → m ∈ before

theorem ordered_nil : Ordered edge [] := by
  intro before n after h
  simp at h

/-- **One more node**, after all that it depends on. -/
theorem Ordered.snoc {order : List N} {last : N} (h : Ordered edge order)
    (hlast : ∀ m, edge last m → m ∈ order) : Ordered edge (order ++ [last]) := by
  intro before n after hsplit m hedge
  obtain rfl | ⟨rest, final, rfl⟩ := List.eq_nil_or_concat after
  · obtain ⟨hbefore, hn⟩ := List.append_inj' hsplit rfl
    rw [← hbefore]
    exact hlast m ((List.head_eq_of_cons_eq hn) ▸ hedge)
  · have hshorter : order ++ [last] = (before ++ n :: rest) ++ [final] := by
      rw [hsplit, List.concat_eq_append, List.append_assoc, List.cons_append]
    exact h before n rest (List.append_inj' hshorter rfl).1 m hedge

/-- No edge leaves the nodes, and none of them is on a cycle. -/
structure Settled (edge : N → N → Prop) (nodes : Finset N) : Prop where
  closed : ∀ n ∈ nodes, ∀ m, edge n m → m ∈ nodes
  acyclic : ∀ n ∈ nodes, ¬ OnCycle edge n

theorem settled_empty : Settled edge ∅ where
  closed := by simp
  acyclic := by simp

theorem Settled.mem_of_transGen {nodes : Finset N} (h : Settled edge nodes) {n m : N}
    (hn : n ∈ nodes) (hpath : TransGen edge n m) : m ∈ nodes := by
  induction hpath with
  | single hedge => exact h.closed n hn _ hedge
  | tail _ hedge ih => exact h.closed _ ih _ hedge

/-- **One more node**: a node that was not settled, and depends on settled nodes only. -/
theorem Settled.insert [DecidableEq N] {nodes : Finset N} (h : Settled edge nodes) {n : N}
    (hnew : n ∉ nodes) (hnext : ∀ m, edge n m → m ∈ nodes) :
    Settled edge (Insert.insert n nodes) where
  closed := by
    intro k hk m hedge
    obtain rfl | hk := Finset.mem_insert.1 hk
    · exact Finset.mem_insert_of_mem (hnext m hedge)
    · exact Finset.mem_insert_of_mem (h.closed k hk m hedge)
  acyclic := by
    intro k hk hcycle
    obtain rfl | hk := Finset.mem_insert.1 hk
    · obtain ⟨m, hedge, hback⟩ := TransGen.head'_iff.1 hcycle
      have hm := hnext m hedge
      obtain rfl | hpath := reflTransGen_iff_eq_or_transGen.1 hback
      · exact hnew hm
      · exact hnew (h.mem_of_transGen hm hpath)
    · exact h.acyclic k hk hcycle

theorem transGen_of_named {named : M → N → Prop} {above : M → M → Prop}
    (hedge : ∀ a b, edge a b → ∃ x, named x a)
    (habove : ∀ x y a b, named x a → named y b → edge a b → above x y) {a b : N}
    (hpath : TransGen edge a b) {y : M} (hy : named y b) :
    ∃ x, named x a ∧ TransGen above x y := by
  induction hpath generalizing y with
  | single hab =>
      obtain ⟨x, hx⟩ := hedge _ _ hab
      exact ⟨x, hx, .single (habove x y _ _ hx hy hab)⟩
  | tail _ hbc ih =>
      obtain ⟨z, hz⟩ := hedge _ _ hbc
      obtain ⟨x, hx, hpath⟩ := ih hz
      exact ⟨x, hx, hpath.tail (habove z y _ _ hz hy hbc)⟩

end DependencyGraph
