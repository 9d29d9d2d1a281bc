import Mathlib.Data.List.Basic

/-!
# A queue with three priorities

Items leave in the order of their priority, and those of one priority in the order in which
they came.

* `PriorityQueue.enqueue`, `dequeue`, `remove` — the operations, on one list a priority;
* `PriorityQueue.toArray` — the items in the order in which they leave;
* `toArray_dequeue`, `toArray_remove_erase`, `perm_enqueue` — what the operations do to it.
-/

inductive Priority
  | high
  | normal
  | low
  deriving DecidableEq, Repr

structure PriorityQueue (α : Type) where
  high : List α := []
  normal : List α := []
  low : List α := []
  deriving DecidableEq, Repr

namespace PriorityQueue

variable {α : Type} (q : PriorityQueue α)

def toArray : List α := q.high ++ (q.normal ++ q.low)

def size : Nat := q.toArray.length

def enqueue (a : α) : Priority → PriorityQueue α
  | .high => { q with high := q.high ++ [a] }
  | .normal => { q with normal := q.normal ++ [a] }
  | .low => { q with low := q.low ++ [a] }

/-- The item that leaves next, and what is left. -/
def dequeue : Option (α × PriorityQueue α) :=
  match q.high, q.normal, q.low with
  | a :: rest, _, _ => some (a, { q with high := rest })
  | [], a :: rest, _ => some (a, { q with normal := rest })
  | [], [], a :: rest => some (a, { q with low := rest })
  | [], [], [] => none

/-- The first item that the predicate holds of, and what is left. -/
def remove (p : α → Bool) : Option (α × PriorityQueue α) :=
  match q.high.find? p, q.normal.find? p, q.low.find? p with
  | some a, _, _ => some (a, { q with high := q.high.eraseP p })
  | none, some a, _ => some (a, { q with normal := q.normal.eraseP p })
  | none, none, some a => some (a, { q with low := q.low.eraseP p })
  | none, none, none => none

variable {q}

theorem perm_enqueue (a : α) (priority : Priority) :
    (q.enqueue a priority).toArray.Perm (a :: q.toArray) := by
  cases priority with
  | high =>
      simp only [enqueue, toArray, List.append_assoc, List.singleton_append]
      exact List.perm_middle
  | normal =>
      simp only [enqueue, toArray, List.append_assoc, List.singleton_append]
      refine (List.Perm.append_left _ List.perm_middle).trans ?_
      exact List.perm_middle
  | low =>
      simp only [enqueue, toArray, ← List.append_assoc]
      exact List.perm_append_singleton a _

theorem toArray_dequeue {a : α} {rest : PriorityQueue α} (h : q.dequeue = some (a, rest)) :
    q.toArray = a :: rest.toArray := by
  obtain ⟨high, normal, low⟩ := q
  unfold dequeue at h
  split at h
  · cases h
    rename_i hhigh
    simp only at hhigh
    simp [toArray, hhigh]
  · cases h
    rename_i hhigh hnormal
    simp only at hhigh hnormal
    simp [toArray, hhigh, hnormal]
  · cases h
    rename_i hhigh hnormal hlow
    simp only at hhigh hnormal hlow
    simp [toArray, hhigh, hnormal, hlow]
  · cases h

theorem dequeue_eq_none : q.dequeue = none ↔ q.toArray = [] := by
  obtain ⟨high, normal, low⟩ := q
  cases high with
  | cons a high => simp [dequeue, toArray]
  | nil =>
      cases normal with
      | cons a normal => simp [dequeue, toArray]
      | nil => cases low <;> simp [dequeue, toArray]

/-- The item that is removed is the first of its kind, and the others stay. -/
theorem toArray_remove {p : α → Bool} {a : α} {rest : PriorityQueue α}
    (h : q.remove p = some (a, rest)) :
    q.toArray.find? p = some a ∧ rest.toArray = q.toArray.eraseP p := by
  unfold remove at h
  unfold toArray
  cases hhigh : q.high.find? p with
  | some b =>
      simp only [hhigh, Option.some.injEq, Prod.mk.injEq] at h
      obtain ⟨rfl, rfl⟩ := h
      have hp := List.find?_some hhigh
      have hmem := List.mem_of_find?_eq_some hhigh
      simp [List.find?_append, hhigh, List.eraseP_append_left hp _ hmem]
  | none =>
      have hskip : ∀ b ∈ q.high, ¬ p b = true := by simpa using hhigh
      cases hnormal : q.normal.find? p with
      | some b =>
          simp only [hhigh, hnormal, Option.some.injEq, Prod.mk.injEq] at h
          obtain ⟨rfl, rfl⟩ := h
          have hp := List.find?_some hnormal
          have hmem := List.mem_of_find?_eq_some hnormal
          rw [List.eraseP_append_right _ hskip, List.eraseP_append_left hp _ hmem]
          simp [List.find?_append, hhigh, hnormal]
      | none =>
          have hskip' : ∀ b ∈ q.normal, ¬ p b = true := by simpa using hnormal
          cases hlow : q.low.find? p with
          | none => simp [hhigh, hnormal, hlow] at h
          | some b =>
              simp only [hhigh, hnormal, hlow, Option.some.injEq, Prod.mk.injEq] at h
              obtain ⟨rfl, rfl⟩ := h
              rw [List.eraseP_append_right _ hskip, List.eraseP_append_right _ hskip']
              simp [List.find?_append, hhigh, hnormal, hlow]

theorem erase_of_find? [DecidableEq α] {p : α → Bool} {a : α} {l : List α}
    (h : l.find? p = some a) : l.eraseP p = l.erase a := by
  induction l with
  | nil => simp at h
  | cons b l ih =>
      by_cases hb : p b = true
      · have hba : b = a := by simpa [List.find?_cons, hb] using h
        rw [← hba]
        simp [hb]
      · have hfind : l.find? p = some a := by simpa [List.find?_cons, hb] using h
        have hba : b ≠ a := fun hba => hb (hba ▸ List.find?_some hfind)
        simp [hb, hba, ih hfind]

/-- **Removal.**  The first item of its kind is erased. -/
theorem toArray_remove_erase [DecidableEq α] {p : α → Bool} {a : α} {rest : PriorityQueue α}
    (h : q.remove p = some (a, rest)) : rest.toArray = q.toArray.erase a := by
  obtain ⟨hfind, hrest⟩ := toArray_remove h
  rw [hrest, erase_of_find? hfind]

theorem remove_eq_none {p : α → Bool} :
    q.remove p = none ↔ q.toArray.find? p = none := by
  unfold remove toArray
  cases hhigh : q.high.find? p with
  | some a => simp [List.find?_append, hhigh]
  | none =>
      cases hnormal : q.normal.find? p with
      | some a => simp [List.find?_append, hhigh, hnormal]
      | none =>
          cases hlow : q.low.find? p with
          | some a => simp [List.find?_append, hhigh, hnormal, hlow]
          | none => simp [List.find?_append, hhigh, hnormal, hlow]

end PriorityQueue
