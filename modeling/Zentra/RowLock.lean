import Mathlib.Logic.Function.Basic
import Mathlib.Data.List.Nodup

/-!
# Row locks and an append-only table

Any number of sessions, each with a transaction, share lockable rows and a
table that is only appended to.  A lockable row has a committed value; the
session that holds its lock may assign another, which nobody else sees until
the session commits.  A session sees the committed rows of the table and those
it inserted itself.  Every row of the table belongs to one lockable row, its
key; nothing but the sessions' own discipline makes them lock the key first.

* `Guarded` — the discipline: whoever has an uncommitted row in the table holds
  the lock of its key.  Under it, what the holder of a key sees of that key is
  everything there is (`visibleOf_eq`), and the committed rows of a key come
  before the uncommitted ones (`committedOf_prefix`);
* `Consistent` — a property of each key's value and rows, seen as one document:
  it survives every operation as soon as each session keeps it in what it holds
  (`Consistent.lock`, `.assign`, `.insert`, `.commit`, `.rollback`);
* `committedOf_commit_prefix` — the committed rows of a key only grow at their
  end;
* `Distinct` — a unique column, which `Waits` and `Collides` guard.
-/

namespace RowLock

/-- A row of the table: who inserted it, and whether that was committed. -/
structure Entry (ρ : Type) where
  writer : Nat
  committed : Bool
  row : ρ
  deriving DecidableEq

/-- What the session sees of the table: read committed, and its own writes. -/
def Entry.visibleTo {ρ : Type} (session : Nat) (e : Entry ρ) : Bool :=
  e.committed || e.writer == session

structure Store (κ V ρ : Type) where
  /-- The committed value of each lockable row. -/
  value : κ → V
  /-- Who holds its lock, and the value as that session has assigned it. -/
  held : κ → Option (Nat × V)
  /-- The table, in the order of the inserts. -/
  log : List (Entry ρ)

variable {κ V ρ ι : Type}

namespace Store

def visible (st : Store κ V ρ) (session : Nat) : List ρ :=
  (st.log.filter (Entry.visibleTo session)).map Entry.row

def committedRows (st : Store κ V ρ) : List ρ :=
  (st.log.filter Entry.committed).map Entry.row

/-- All rows, whoever has yet to commit them. -/
def rows (st : Store κ V ρ) : List ρ := st.log.map Entry.row

def insert (st : Store κ V ρ) (session : Nat) (new : List ρ) : Store κ V ρ :=
  { st with log := st.log ++ new.map fun row => ⟨session, false, row⟩ }

/-- The locks that the session holds become free; the others stay. -/
def release (st : Store κ V ρ) (session : Nat) (k : κ) : Option (Nat × V) :=
  (st.held k).filter fun holder => holder.1 ≠ session

def commit (st : Store κ V ρ) (session : Nat) : Store κ V ρ where
  value k :=
    match st.held k with
    | some (holder, v) => if holder = session then v else st.value k
    | none => st.value k
  held := st.release session
  log := st.log.map fun e =>
    if e.writer = session then { e with committed := true } else e

def rollback (st : Store κ V ρ) (session : Nat) : Store κ V ρ where
  value := st.value
  held := st.release session
  log := st.log.filter fun e => e.committed || e.writer != session

section Locks

variable [DecidableEq κ]

def assign (st : Store κ V ρ) (session : Nat) (k : κ) (v : V) : Store κ V ρ :=
  { st with held := Function.update st.held k (some (session, v)) }

/-- Take the lock of a row, with the committed value to start from; the session
waits (`none`) while another has it. -/
def lock (st : Store κ V ρ) (session : Nat) (k : κ) : Option (Store κ V ρ) :=
  match st.held k with
  | none => some (st.assign session k (st.value k))
  | some (holder, _) => if holder = session then some st else none

/-- The value of a row as the session that has locked it sees it. -/
def current (st : Store κ V ρ) (k : κ) : V :=
  match st.held k with
  | some (_, v) => v
  | none => st.value k

variable (keyOf : ρ → κ) (st : Store κ V ρ)

/-- The rows of a key among those of a list. -/
def ofKey (k : κ) (rows : List ρ) : List ρ := rows.filter fun row => keyOf row = k

def visibleOf (session : Nat) (k : κ) : List ρ := ofKey keyOf k (st.visible session)

def committedOf (k : κ) : List ρ := ofKey keyOf k st.committedRows

def rowsOf (k : κ) : List ρ := ofKey keyOf k st.rows

end Locks

section Unique

variable (idOf : ρ → ι) (st : Store κ V ρ) (session : Nat) (new : List ρ)

/-- An insert into a unique column waits for another session's uncommitted row
with the same value. -/
def Waits : Prop :=
  ∃ e ∈ st.log, e.visibleTo session = false ∧ idOf e.row ∈ new.map idOf

/-- An insert that repeats a value of the unique column. -/
def Collides : Prop :=
  ¬ (new.map idOf).Nodup ∨ ∃ row ∈ st.visible session, idOf row ∈ new.map idOf

instance [DecidableEq ι] : Decidable (st.Waits idOf session new) :=
  inferInstanceAs (Decidable (∃ e ∈ st.log, _))

instance [DecidableEq ι] : Decidable (st.Collides idOf session new) :=
  inferInstanceAs (Decidable (_ ∨ ∃ row ∈ st.visible session, _))

/-- No two rows of the table have the same value in the column. -/
def Distinct : Prop := (st.rows.map idOf).Nodup

end Unique

end Store

open Store

section Rows

variable {st : Store κ V ρ} {session : Nat} {new : List ρ}

@[simp] theorem rows_insert : (st.insert session new).rows = st.rows ++ new := by
  unfold Store.insert rows
  rw [List.map_append, List.map_map]
  exact congrArg _ (List.map_id' new)

@[simp] theorem committedRows_insert :
    (st.insert session new).committedRows = st.committedRows := by
  unfold Store.insert committedRows
  rw [List.filter_append, List.filter_map]
  simp [Function.comp_def]

@[simp] theorem rows_commit : (st.commit session).rows = st.rows := by
  unfold commit rows
  rw [List.map_map]
  apply List.map_congr_left
  intro e _
  by_cases he : e.writer = session
  · simp [he]
  · simp [he]

@[simp] theorem committedRows_commit :
    (st.commit session).committedRows = st.visible session := by
  unfold commit committedRows visible
  rw [List.filter_map, List.map_map]
  have hvisible : (Entry.committed ∘ fun e : Entry ρ =>
      if e.writer = session then { e with committed := true } else e) =
        Entry.visibleTo session := by
    funext e
    by_cases he : e.writer = session
    · simp [Entry.visibleTo, he]
    · simp [Entry.visibleTo, he]
  rw [hvisible]
  apply List.map_congr_left
  intro e _
  by_cases he : e.writer = session
  · simp [he]
  · simp [he]

@[simp] theorem committedRows_rollback :
    (st.rollback session).committedRows = st.committedRows := by
  unfold rollback committedRows
  rw [List.filter_filter]
  congr 1
  apply List.filter_congr
  intro e _
  cases e.committed <;> rfl

theorem committedRows_sublist : st.committedRows.Sublist st.rows :=
  List.filter_sublist.map Entry.row

theorem mem_visible_of_committed {row : ρ} (h : row ∈ st.committedRows) :
    row ∈ st.visible session := by
  obtain ⟨e, he, rfl⟩ := List.mem_map.1 h
  obtain ⟨hlog, hcommitted⟩ := List.mem_filter.1 he
  have hvisible : e.visibleTo session = true := by simp [Entry.visibleTo, hcommitted]
  exact List.mem_map_of_mem (List.mem_filter.2 ⟨hlog, hvisible⟩)

theorem rows_rollback_sublist : (st.rollback session).rows.Sublist st.rows :=
  List.filter_sublist.map Entry.row

theorem release_eq_some {k : κ} {v : V} {holder : Nat} :
    st.release session k = some (holder, v) ↔
      st.held k = some (holder, v) ∧ holder ≠ session := by
  unfold release
  rw [Option.filter_eq_some_iff]
  simp

section Locks

variable [DecidableEq κ] {st' : Store κ V ρ} {k : κ} {v : V}

@[simp] theorem held_assign_self :
    (st.assign session k v).held k = some (session, v) := Function.update_self ..

theorem held_assign_of_ne {j : κ} (hj : j ≠ k) :
    (st.assign session k v).held j = st.held j := Function.update_of_ne hj ..

/-- A lock that is granted was free, or was the session's own. -/
theorem lock_eq_some (h : st.lock session k = some st') :
    (st.held k = none ∧ st' = st.assign session k (st.value k)) ∨
    (∃ v, st.held k = some (session, v)) ∧ st' = st := by
  unfold lock at h
  split at h
  next hfree => exact .inl ⟨hfree, (Option.some.inj h).symm⟩
  next holder v hheld =>
      split at h
      next heq =>
          subst heq
          exact .inr ⟨⟨v, hheld⟩, (Option.some.inj h).symm⟩
      next => cases h

theorem log_lock (h : st.lock session k = some st') : st'.log = st.log := by
  rcases lock_eq_some h with ⟨-, rfl⟩ | ⟨-, rfl⟩ <;> rfl

theorem rows_lock (h : st.lock session k = some st') : st'.rows = st.rows :=
  congrArg (List.map Entry.row) (log_lock h)

theorem committedRows_lock (h : st.lock session k = some st') :
    st'.committedRows = st.committedRows :=
  congrArg (fun log => (log.filter Entry.committed).map Entry.row) (log_lock h)

theorem held_lock (h : st.lock session k = some st') :
    st'.held k = some (session, st'.current k) := by
  have hcurrent : ∀ {st : Store κ V ρ} {v : V}, st.held k = some (session, v) →
      st.held k = some (session, st.current k) := by
    intro st v hheld
    simp [current, hheld]
  rcases lock_eq_some h with ⟨-, rfl⟩ | ⟨⟨v, hheld⟩, rfl⟩
  · exact hcurrent held_assign_self
  · exact hcurrent hheld

theorem held_lock_of_held (h : st.lock session k = some st') {other : Nat} {j : κ}
    (hheld : st.held j = some (other, v)) :
    st'.held j = some (other, v) := by
  rcases lock_eq_some h with ⟨hfree, rfl⟩ | ⟨-, rfl⟩
  · have hj : j ≠ k := by
      rintro rfl
      rw [hfree] at hheld
      cases hheld
    exact (held_assign_of_ne hj).trans hheld
  · exact hheld

end Locks

end Rows

section Discipline

variable {keyOf : ρ → κ} {st st' : Store κ V ρ} {session : Nat}
  {new : List ρ} {k : κ} {v : V}

/-- Whoever has an uncommitted row in the table holds the lock of its key; and
of two rows of one key, the earlier one is committed if the later one is. -/
structure Guarded (keyOf : ρ → κ) (st : Store κ V ρ) : Prop where
  writer : ∀ e ∈ st.log, e.committed = false →
    ∃ v, st.held (keyOf e.row) = some (e.writer, v)
  order : st.log.Pairwise fun e f =>
    keyOf e.row = keyOf f.row → f.committed = true → e.committed = true

theorem Guarded.empty (value : κ → V) :
    Guarded keyOf ({ value, held := fun _ => none, log := [] } : Store κ V ρ) :=
  ⟨by simp, List.Pairwise.nil⟩

theorem Guarded.committed_of_held (h : Guarded keyOf st) {e : Entry ρ} (he : e ∈ st.log)
    (hother : ∀ v, st.held (keyOf e.row) ≠ some (e.writer, v)) : e.committed = true := by
  cases hc : e.committed with
  | true => rfl
  | false =>
      obtain ⟨v, hv⟩ := h.writer e he hc
      exact absurd hv (hother v)

theorem Guarded.insert (h : Guarded keyOf st)
    (hheld : ∀ row ∈ new, ∃ v, st.held (keyOf row) = some (session, v)) :
    Guarded keyOf (st.insert session new) := by
  constructor
  · intro e he hc
    rcases List.mem_append.1 he with he | he
    · exact h.writer e he hc
    · obtain ⟨row, hrow, rfl⟩ := List.mem_map.1 he
      exact hheld row hrow
  · apply List.pairwise_append.2
    refine ⟨h.order, ?_, ?_⟩
    · apply List.Pairwise.map (R := fun _ _ => True)
      · intro _ _ _ _ hc
        cases hc
      · exact List.pairwise_of_forall fun _ _ => trivial
    · intro e _ f hf _ hc
      obtain ⟨row, -, rfl⟩ := List.mem_map.1 hf
      cases hc

theorem Guarded.commit (h : Guarded keyOf st) : Guarded keyOf (st.commit session) := by
  constructor
  · intro e he hc
    obtain ⟨f, hf, rfl⟩ := List.mem_map.1 he
    by_cases hwriter : f.writer = session
    · simp [hwriter] at hc
    · simp only [hwriter, if_false] at hc ⊢
      obtain ⟨w, hw⟩ := h.writer f hf hc
      exact ⟨w, release_eq_some.2 ⟨hw, hwriter⟩⟩
  · apply List.pairwise_map.2
    apply h.order.imp_of_mem
    intro e f he hf hef hkey hc
    by_cases hwe : e.writer = session
    · simp [hwe]
    · by_cases hwf : f.writer = session
      · simp only [hwe, hwf, if_true, if_false] at hkey hc ⊢
        cases hce : e.committed with
        | true => rfl
        | false =>
            cases hcf : f.committed with
            | true => exact hce.symm.trans (hef hkey hcf)
            | false =>
                -- Two writers cannot both hold the key.
                obtain ⟨w, hw⟩ := h.writer e he hce
                obtain ⟨w', hw'⟩ := h.writer f hf hcf
                rw [hkey, hw'] at hw
                have hsame : f.writer = e.writer :=
                  congrArg Prod.fst (Option.some.inj hw)
                exact absurd (hsame.symm.trans hwf) hwe
      · simp only [hwe, hwf, if_false] at hkey hc ⊢
        exact hef hkey hc

theorem Guarded.rollback (h : Guarded keyOf st) :
    Guarded keyOf (st.rollback session) := by
  refine ⟨fun e he hc => ?_, h.order.filter _⟩
  obtain ⟨hmem, hkept⟩ := List.mem_filter.1 he
  have hne : e.writer ≠ session := by simpa [hc] using hkept
  obtain ⟨w, hw⟩ := h.writer e hmem hc
  exact ⟨w, release_eq_some.2 ⟨hw, hne⟩⟩

variable [DecidableEq κ]

/-- The rows of a key that pass a test, as entries of the log. -/
private theorem ofKey_filter (log : List (Entry ρ)) (p : Entry ρ → Bool) :
    ofKey keyOf k ((log.filter p).map Entry.row) =
      ((log.filter fun e => decide (keyOf e.row = k)).filter p).map Entry.row := by
  unfold ofKey
  rw [List.filter_map, List.filter_filter, List.filter_filter]
  congr 1
  apply List.filter_congr
  intro e _
  exact Bool.and_comm ..

private theorem rowsOf_eq :
    st.rowsOf keyOf k = ofKey keyOf k ((st.log.filter fun _ => true).map Entry.row) := by
  rw [List.filter_true, rowsOf, rows]

private theorem ofKey_congr {p q : Entry ρ → Bool}
    (h : ∀ e ∈ st.log, keyOf e.row = k → p e = q e) :
    ofKey keyOf k ((st.log.filter p).map Entry.row) =
      ofKey keyOf k ((st.log.filter q).map Entry.row) := by
  rw [ofKey_filter, ofKey_filter]
  congr 1
  apply List.filter_congr
  intro e he
  obtain ⟨hmem, hk⟩ := List.mem_filter.1 he
  exact h e hmem (of_decide_eq_true hk)

/-- **The holder sees everything.**  Under the discipline, what the session
that holds a key sees of it is all there is of it. -/
theorem Guarded.visibleOf_eq (h : Guarded keyOf st)
    (hheld : st.held k = some (session, v)) :
    st.visibleOf keyOf session k = st.rowsOf keyOf k := by
  rw [rowsOf_eq, visibleOf, visible]
  apply ofKey_congr
  intro e he hk
  by_cases hwriter : e.writer = session
  · simp [Entry.visibleTo, hwriter]
  · have hc : e.committed = true := by
      apply h.committed_of_held he
      intro w hw
      rw [hk, hheld] at hw
      exact hwriter (congrArg Prod.fst (Option.some.inj hw)).symm
    simp [Entry.visibleTo, hc]

theorem Guarded.visibleOf_eq_committedOf (h : Guarded keyOf st)
    (hother : ∀ v, st.held k ≠ some (session, v)) :
    st.visibleOf keyOf session k = st.committedOf keyOf k := by
  rw [committedOf, committedRows, visibleOf, visible]
  apply ofKey_congr
  intro e he hk
  by_cases hwriter : e.writer = session
  · have hc : e.committed = true := by
      apply h.committed_of_held he
      rw [hk, hwriter]
      exact hother
    simp [Entry.visibleTo, hc]
  · simp [Entry.visibleTo, hwriter]

theorem Guarded.committedOf_eq (h : Guarded keyOf st) (hfree : st.held k = none) :
    st.committedOf keyOf k = st.rowsOf keyOf k := by
  rw [rowsOf_eq, committedOf, committedRows]
  apply ofKey_congr
  intro e he hk
  apply h.committed_of_held he
  intro v hv
  rw [hk, hfree] at hv
  cases hv

private theorem filter_prefix_of_pairwise {α : Type} {p : α → Bool} {l : List α}
    (h : l.Pairwise fun a b => p b = true → p a = true) : l.filter p <+: l := by
  induction l with
  | nil => exact List.nil_prefix
  | cons a l ih =>
      obtain ⟨ha, hl⟩ := List.pairwise_cons.1 h
      cases hp : p a with
      | true =>
          rw [List.filter_cons_of_pos hp]
          exact (List.cons_prefix_cons).2 ⟨rfl, ih hl⟩
      | false =>
          have hnone : l.filter p = [] := by
            apply List.filter_eq_nil_iff.2
            intro b hb hpb
            have := ha b hb hpb
            rw [hp] at this
            cases this
          rw [List.filter_cons_of_neg (by simp [hp]), hnone]
          exact List.nil_prefix

theorem Guarded.committedOf_prefix (h : Guarded keyOf st) :
    st.committedOf keyOf k <+: st.rowsOf keyOf k := by
  rw [rowsOf_eq, committedOf, committedRows, ofKey_filter, ofKey_filter, List.filter_true]
  apply List.IsPrefix.map
  apply filter_prefix_of_pairwise
  apply (h.order.filter _).imp_of_mem
  intro e f he hf hef
  have hke : keyOf e.row = k := by simpa using (List.mem_filter.1 he).2
  have hkf : keyOf f.row = k := by simpa using (List.mem_filter.1 hf).2
  exact hef (hke.trans hkf.symm)

theorem Guarded.lock (h : Guarded keyOf st) (hlock : st.lock session k = some st') :
    Guarded keyOf st' := by
  rcases lock_eq_some hlock with ⟨hfree, rfl⟩ | ⟨-, rfl⟩
  · refine ⟨fun e he hc => ?_, h.order⟩
    obtain ⟨w, hw⟩ := h.writer e he hc
    have hne : keyOf e.row ≠ k := by
      intro hk
      rw [hk, hfree] at hw
      cases hw
    exact ⟨w, (held_assign_of_ne hne).trans hw⟩
  · exact h

theorem Guarded.assign (h : Guarded keyOf st) {old : V}
    (hheld : st.held k = some (session, old)) :
    Guarded keyOf (st.assign session k v) := by
  refine ⟨fun e he hc => ?_, h.order⟩
  obtain ⟨w, hw⟩ := h.writer e he hc
  by_cases hk : keyOf e.row = k
  · rw [hk, hheld] at hw
    have hwriter : session = e.writer := congrArg Prod.fst (Option.some.inj hw)
    refine ⟨v, ?_⟩
    rw [hk, ← hwriter]
    exact held_assign_self
  · exact ⟨w, (held_assign_of_ne hk).trans hw⟩

theorem Guarded.rowsOf_rollback (h : Guarded keyOf st)
    (hother : ∀ v, st.held k ≠ some (session, v)) :
    (st.rollback session).rowsOf keyOf k = st.rowsOf keyOf k := by
  have hrows : st.rowsOf keyOf k =
      ofKey keyOf k ((st.log.filter fun _ => true).map Entry.row) := rowsOf_eq
  rw [hrows, rowsOf, rows, Store.rollback]
  apply ofKey_congr
  intro e he hk
  by_cases hwriter : e.writer = session
  · have hc : e.committed = true := by
      apply h.committed_of_held he
      rw [hk, hwriter]
      exact hother
    simp [hc]
  · simp [hwriter]

/-- What is committed of a key after a commit: all of it, if the session held
the key, and otherwise what was. -/
theorem Guarded.committedOf_commit (h : Guarded keyOf st) :
    (st.commit session).committedOf keyOf k = st.committedOf keyOf k ∨
      (∃ v, st.held k = some (session, v)) ∧
        (st.commit session).committedOf keyOf k = st.rowsOf keyOf k := by
  have hvisible : (st.commit session).committedOf keyOf k =
      st.visibleOf keyOf session k := by
    rw [committedOf, committedRows_commit, visibleOf]
  rw [hvisible]
  by_cases hheld : ∃ v, st.held k = some (session, v)
  · obtain ⟨v, hv⟩ := hheld
    exact .inr ⟨⟨v, hv⟩, h.visibleOf_eq hv⟩
  · exact .inl (h.visibleOf_eq_committedOf fun v hv => hheld ⟨v, hv⟩)

/-- **The committed rows of a key only grow at their end.** -/
theorem Guarded.committedOf_commit_prefix (h : Guarded keyOf st) :
    st.committedOf keyOf k <+: (st.commit session).committedOf keyOf k := by
  have hcommitted : (st.commit session).committedOf keyOf k = st.committedOf keyOf k ∨
      (∃ v, st.held k = some (session, v)) ∧
        (st.commit session).committedOf keyOf k = st.rowsOf keyOf k :=
    h.committedOf_commit
  rcases hcommitted with heq | ⟨-, heq⟩
  · exact heq ▸ List.prefix_rfl
  · exact heq ▸ h.committedOf_prefix

/-- The committed value and rows of each key satisfy `free`; the value and rows
of a key that a session holds satisfy what that session keeps. -/
structure Consistent (keyOf : ρ → κ) (free : κ → V → List ρ → Prop)
    (kept : Nat → κ → V → List ρ → Prop) (st : Store κ V ρ) : Prop
    extends Guarded keyOf st where
  free_ok : ∀ k, free k (st.value k) (st.committedOf keyOf k)
  held_ok : ∀ session k v, st.held k = some (session, v) →
    kept session k v (st.rowsOf keyOf k)

namespace Consistent

variable {free : κ → V → List ρ → Prop} {kept kept' : Nat → κ → V → List ρ → Prop}

theorem empty (value : κ → V) (h : ∀ k, free k (value k) []) :
    Consistent keyOf free kept { value, held := fun _ => none, log := [] } where
  toGuarded := Guarded.empty value
  free_ok k := h k
  held_ok _ _ _ hheld := by cases hheld

theorem imp (h : Consistent keyOf free kept st)
    (himp : ∀ session k v, st.held k = some (session, v) →
      kept session k v (st.rowsOf keyOf k) → kept' session k v (st.rowsOf keyOf k)) :
    Consistent keyOf free kept' st where
  toGuarded := h.toGuarded
  free_ok := h.free_ok
  held_ok session k v hheld := himp session k v hheld (h.held_ok session k v hheld)

/-- A session that is granted a lock starts from the committed document. -/
theorem lock (h : Consistent keyOf free kept st)
    (hlock : st.lock session k = some st')
    (hstart : ∀ v rows, free k v rows → kept session k v rows) :
    Consistent keyOf free kept st' := by
  have hguarded : Guarded keyOf st' := h.toGuarded.lock hlock
  rcases lock_eq_some hlock with ⟨hfree, rfl⟩ | ⟨-, rfl⟩
  · refine ⟨hguarded, h.free_ok, fun holder j v hheld => ?_⟩
    by_cases hj : j = k
    · subst hj
      have hnew : some (session, st.value j) = some (holder, v) :=
        held_assign_self.symm.trans hheld
      cases hnew
      have hall : st.committedOf keyOf j = st.rowsOf keyOf j :=
        h.toGuarded.committedOf_eq hfree
      exact hstart _ _ (hall ▸ h.free_ok j)
    · have hold : st.held j = some (holder, v) :=
        (held_assign_of_ne hj).symm.trans hheld
      exact h.held_ok holder j v hold
  · exact h

theorem assign (h : Consistent keyOf free kept st) {old : V}
    (hheld : st.held k = some (session, old))
    (hnew : ∀ rows, kept session k old rows → kept' session k v rows)
    (hothers : ∀ holder j w rows, j ≠ k → kept holder j w rows → kept' holder j w rows) :
    Consistent keyOf free kept' (st.assign session k v) := by
  refine ⟨h.toGuarded.assign hheld, h.free_ok, fun holder j w hw => ?_⟩
  by_cases hj : j = k
  · subst hj
    have hassigned : some (session, v) = some (holder, w) :=
      held_assign_self.symm.trans hw
    cases hassigned
    exact hnew _ (h.held_ok session j old hheld)
  · have hold : st.held j = some (holder, w) :=
      (held_assign_of_ne hj).symm.trans hw
    exact hothers holder j w _ hj (h.held_ok holder j w hold)

/-- An insert under the lock of the rows' key adds them to the document of that
key alone. -/
theorem insert (h : Consistent keyOf free kept st)
    (hheld : st.held k = some (session, v)) (hkey : ∀ row ∈ new, keyOf row = k)
    (hnew : ∀ rows, kept session k v rows → kept' session k v (rows ++ new))
    (hothers : ∀ holder j w rows, j ≠ k → kept holder j w rows → kept' holder j w rows) :
    Consistent keyOf free kept' (st.insert session new) := by
  have hguarded : Guarded keyOf (st.insert session new) :=
    h.toGuarded.insert fun row hrow => ⟨v, hkey row hrow ▸ hheld⟩
  refine ⟨hguarded, fun j => ?_, fun holder j w hw => ?_⟩
  · rw [committedOf, committedRows_insert]
    exact h.free_ok j
  · have hrows : (st.insert session new).rowsOf keyOf j =
        st.rowsOf keyOf j ++ ofKey keyOf j new := by
      rw [rowsOf, rows_insert, ofKey, List.filter_append]
      rfl
    rw [hrows]
    by_cases hj : j = k
    · subst hj
      have hsame : some (session, v) = some (holder, w) := hheld.symm.trans hw
      cases hsame
      have hofKey : ofKey keyOf j new = new :=
        List.filter_eq_self.2 fun row hrow => decide_eq_true (hkey row hrow)
      rw [hofKey]
      exact hnew _ (h.held_ok session j v hheld)
    · have hofKey : ofKey keyOf j new = [] := by
        apply List.filter_eq_nil_iff.2
        intro row hrow hj'
        exact hj ((of_decide_eq_true hj').symm.trans (hkey row hrow))
      rw [hofKey, List.append_nil]
      exact hothers holder j w _ hj (h.held_ok holder j w hw)

theorem commit (h : Consistent keyOf free kept st)
    (hdone : ∀ k v rows, kept session k v rows → free k v rows)
    (hothers : ∀ holder j w rows, holder ≠ session →
      kept holder j w rows → kept' holder j w rows) :
    Consistent keyOf free kept' (st.commit session) := by
  refine ⟨h.toGuarded.commit, fun k => ?_, fun holder j w hw => ?_⟩
  · by_cases hheld : ∃ v, st.held k = some (session, v)
    · obtain ⟨v, hv⟩ := hheld
      have hvalue : (st.commit session).value k = v := by simp [Store.commit, hv]
      have hrows : (st.commit session).committedOf keyOf k = st.rowsOf keyOf k := by
        rw [committedOf, committedRows_commit]
        exact h.toGuarded.visibleOf_eq hv
      rw [hvalue, hrows]
      exact hdone k v _ (h.held_ok session k v hv)
    · have hother : ∀ v, st.held k ≠ some (session, v) := fun v hv => hheld ⟨v, hv⟩
      have hvalue : (st.commit session).value k = st.value k := by
        unfold Store.commit
        dsimp only
        split
        next holder v hv =>
            have hne : holder ≠ session := by
              rintro rfl
              exact hother v hv
            exact if_neg hne
        next => rfl
      have hrows : (st.commit session).committedOf keyOf k = st.committedOf keyOf k := by
        rw [committedOf, committedRows_commit]
        exact h.toGuarded.visibleOf_eq_committedOf hother
      rw [hvalue, hrows]
      exact h.free_ok k
  · obtain ⟨hold, hne⟩ := release_eq_some.1 hw
    rw [rowsOf, rows_commit]
    exact hothers holder j w _ hne (h.held_ok holder j w hold)

theorem rollback (h : Consistent keyOf free kept st)
    (hothers : ∀ holder j w rows, holder ≠ session →
      kept holder j w rows → kept' holder j w rows) :
    Consistent keyOf free kept' (st.rollback session) := by
  refine ⟨h.toGuarded.rollback, fun k => ?_, fun holder j w hw => ?_⟩
  · rw [committedOf, committedRows_rollback]
    exact h.free_ok k
  · obtain ⟨hold, hne⟩ := release_eq_some.1 hw
    have hother : ∀ v, st.held j ≠ some (session, v) := by
      intro v hv
      rw [hold] at hv
      exact hne (congrArg Prod.fst (Option.some.inj hv))
    rw [h.toGuarded.rowsOf_rollback hother]
    exact hothers holder j w _ hne (h.held_ok holder j w hold)

end Consistent

end Discipline

section Unique

variable {idOf : ρ → ι} {st : Store κ V ρ} {session : Nat} {new : List ρ}

theorem Store.Distinct.insert (h : st.Distinct idOf) (hwaits : ¬ st.Waits idOf session new)
    (hcollides : ¬ st.Collides idOf session new) :
    (st.insert session new).Distinct idOf := by
  have hnew : (new.map idOf).Nodup := by
    by_contra hnot
    exact hcollides (.inl hnot)
  unfold Distinct at *
  rw [rows_insert, List.map_append]
  refine List.Nodup.append h hnew ?_
  intro id hold hid
  obtain ⟨row, hrow, rfl⟩ := List.mem_map.1 hold
  obtain ⟨e, he, rfl⟩ := List.mem_map.1 hrow
  cases hv : e.visibleTo session with
  | false => exact hwaits ⟨e, he, hv, hid⟩
  | true =>
      have hvisible : e.row ∈ st.visible session :=
        List.mem_map.2 ⟨e, List.mem_filter.2 ⟨he, hv⟩, rfl⟩
      exact hcollides (.inr ⟨e.row, hvisible, hid⟩)

theorem Store.Distinct.lock [DecidableEq κ] {st' : Store κ V ρ} {k : κ}
    (h : st.Distinct idOf) (hlock : st.lock session k = some st') : st'.Distinct idOf := by
  unfold Distinct
  rw [rows_lock hlock]
  exact h

theorem Store.Distinct.commit (h : st.Distinct idOf) : (st.commit session).Distinct idOf := by
  unfold Distinct
  rw [rows_commit]
  exact h

theorem Store.Distinct.rollback (h : st.Distinct idOf) :
    (st.rollback session).Distinct idOf :=
  h.sublist (rows_rollback_sublist.map idOf)

end Unique

end RowLock
