/-!
# Walks along links

Every node of a store links to at most one other node, and looking a link up may fail.
A walk collects the nodes from one node on until it meets one without a link.  A store
whose links form a cycle keeps it going for ever.

* `Path` — the nodes from one node to the last one, as a relation;
* `walk_of_path`, `path_of_walk` — with enough fuel the walk returns the path, and it
  returns nothing else;
* `Path.mono` — a store that resolves at least the links of another one has its paths;
* `walk_of_loop` — from a node that links to itself no fuel is enough.
-/

namespace PointerWalk

variable {ν ε : Type} {next next' : ν → Except ε (Option ν)}

/-- The walk, with a bound on the nodes it visits: `none` when it is not over. -/
def walk (next : ν → Except ε (Option ν)) : Nat → ν → List ν → Option (Except ε (List ν))
  | 0, _, _ => none
  | fuel + 1, current, chain =>
      match next current with
      | .error e => some (.error e)
      | .ok none => some (.ok (chain ++ [current]))
      | .ok (some node) => walk next fuel node (chain ++ [current])

/-- `Path next node chain`: following the links from `node` gives `chain`. -/
inductive Path (next : ν → Except ε (Option ν)) : ν → List ν → Prop
  | last {node : ν} : next node = .ok none → Path next node [node]
  | link {node linked : ν} {chain : List ν} :
      next node = .ok (some linked) → Path next linked chain → Path next node (node :: chain)

theorem Path.head {node : ν} {chain : List ν} (h : Path next node chain) :
    ∃ rest, chain = node :: rest := by
  cases h with
  | last _ => exact ⟨[], rfl⟩
  | @link _ _ rest _ _ => exact ⟨rest, rfl⟩

/-- **Paths are kept** by a store that resolves every link the other one resolves. -/
theorem Path.mono (hmono : ∀ node linked, next node = .ok linked → next' node = .ok linked)
    {node : ν} {chain : List ν} (h : Path next node chain) : Path next' node chain := by
  induction h with
  | last hlast => exact .last (hmono _ _ hlast)
  | link hlink _ ih => exact .link (hmono _ _ hlink) ih

/-- **Enough fuel**: as many steps as the path has nodes. -/
theorem walk_of_path {node : ν} {chain : List ν} (h : Path next node chain)
    (before : List ν) {fuel : Nat} (hfuel : chain.length ≤ fuel) :
    walk next fuel node before = some (.ok (before ++ chain)) := by
  induction h generalizing before fuel with
  | last hlast =>
      obtain ⟨more, rfl⟩ := Nat.exists_eq_add_of_le' hfuel
      simp [walk, hlast]
  | @link node linked chain hlink _ ih =>
      rw [List.length_cons] at hfuel
      obtain ⟨more, rfl⟩ : ∃ more, fuel = more + 1 := ⟨fuel - 1, by omega⟩
      have hlength : chain.length ≤ more := by omega
      have hrest := ih (before ++ [node]) hlength
      simpa [walk, hlink] using hrest

theorem path_of_walk {fuel : Nat} {node : ν} {before result : List ν}
    (h : walk next fuel node before = some (.ok result)) :
    ∃ chain, Path next node chain ∧ result = before ++ chain := by
  induction fuel generalizing node before with
  | zero => cases h
  | succ fuel ih =>
      unfold walk at h
      split at h
      next => cases h
      next hlast =>
          cases h
          exact ⟨[node], .last hlast, rfl⟩
      next linked hlink =>
          obtain ⟨chain, hpath, hresult⟩ := ih h
          exact ⟨node :: chain, .link hlink hpath, by simpa using hresult⟩

theorem walk_of_loop {node : ν} (h : next node = .ok (some node)) (fuel : Nat)
    (before : List ν) : walk next fuel node before = none := by
  induction fuel generalizing before with
  | zero => rfl
  | succ fuel ih => simp [walk, h, ih]

end PointerWalk
