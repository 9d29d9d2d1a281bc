import Mathlib.Order.Basic

/-!
# Undoing by a snapshot

A value is changed by updates, each of which remembers what it found.  An update is undone by
putting back what it found, and not by taking its own effect away: whatever came after it is lost
with it.  So the value is what the updates that are in place make of the start as long as an
update is undone only after the later ones that matter.

* `History` — how the entries of a log update the value, and which of them do not any more;
* `History.replay` — what the updates that are in place make of the start;
* `History.Sound` — the value is that, and an open update has found that of the ones before it;
* `Sound.update`, `Sound.undo`, `Sound.revise` — an update, an undoing in the reverse order, and
  a change of an entry that does not matter.
-/

namespace SnapshotUndo

/-- How the entries of a log update a value. -/
structure History (V E : Type) where
  update : E → V → V
  /-- whether the entry updates the value at all -/
  Touches : E → Prop
  /-- whether the entry has been undone -/
  undone : E → Bool
  /-- whether the entry can still be undone -/
  isOpen : E → Bool
  /-- what the entry found -/
  found : E → V
  untouched : ∀ e v, ¬ Touches e → update e v = v
  not_undone : ∀ e, isOpen e = true → undone e = false

namespace History

variable {V E : Type} (history : History V E)

/-- What the updates that are in place make of the start, in the order of the log. -/
def replay (start : V) (log : List E) : V :=
  (log.filter fun e => !history.undone e).foldl (fun v e => history.update e v) start

variable {history} {start value : V} {log pre post : List E} {e x y : E}

theorem replay_append : history.replay start (pre ++ post) =
    history.replay (history.replay start pre) post := by
  unfold replay
  rw [List.filter_append, List.foldl_append]

theorem replay_cons_undone (h : history.undone e = true) :
    history.replay start (e :: post) = history.replay start post := by
  unfold replay
  rw [List.filter_cons_of_neg (by simp [h])]

theorem replay_cons (h : history.undone e = false) :
    history.replay start (e :: post) = history.replay (history.update e start) post := by
  unfold replay
  rw [List.filter_cons_of_pos (by simp [h])]
  rfl

/-- Entries that are undone or do not touch the value leave it. -/
theorem replay_eq_self (h : ∀ y ∈ post, history.Touches y → history.undone y = true) :
    history.replay start post = start := by
  induction post generalizing start with
  | nil => rfl
  | cons y rest ih =>
      have hrest := fun z hz => h z (List.mem_cons_of_mem y hz)
      cases hundone : history.undone y with
      | true => exact (replay_cons_undone hundone).trans (ih hrest)
      | false =>
          have huntouched : ¬ history.Touches y := fun htouches => by
            rw [h y List.mem_cons_self htouches] at hundone
            cases hundone
          rw [replay_cons hundone, history.untouched y _ huntouched]
          exact ih hrest

theorem replay_revise (hupdate : history.update y = history.update x)
    (hundone : history.undone y = history.undone x) :
    history.replay start (pre ++ y :: post) = history.replay start (pre ++ x :: post) := by
  rw [replay_append, replay_append]
  cases hx : history.undone x with
  | true => rw [replay_cons_undone hx, replay_cons_undone (hundone.trans hx)]
  | false => rw [replay_cons hx, replay_cons (hundone.trans hx), hupdate]

/-- The value is what the updates in place make of the start, and an open update has found what
those before it make of the start. -/
structure Sound (history : History V E) (start value : V) (log : List E) : Prop where
  value_eq : value = history.replay start log
  found_eq : ∀ pre e post, log = pre ++ e :: post → history.isOpen e = true →
    history.Touches e → history.found e = history.replay start pre

theorem sound_nil : Sound history start start [] where
  value_eq := rfl
  found_eq := by
    intro pre e post h
    simp at h

theorem split_snoc (h : log ++ [e] = pre ++ x :: post) :
    (post = [] ∧ pre = log ∧ x = e) ∨ ∃ rest, log = pre ++ x :: rest := by
  obtain rfl | ⟨rest, last, rfl⟩ := List.eq_nil_or_concat post
  · obtain ⟨hlog, hx⟩ := List.append_inj' h rfl
    exact .inl ⟨rfl, hlog.symm, (List.head_eq_of_cons_eq hx).symm⟩
  · rw [List.concat_eq_append, ← List.cons_append, ← List.append_assoc] at h
    exact .inr ⟨rest, (List.append_inj' h rfl).1⟩

/-- **An update**, which finds the value. -/
theorem Sound.update (h : Sound history start value log) (hlive : history.undone e = false)
    (hfound : history.found e = value) :
    Sound history start (history.update e value) (log ++ [e]) where
  value_eq := by
    rw [replay_append, ← h.value_eq, replay_cons hlive]
    rfl
  found_eq := by
    intro pre x post hsplit hopen htouches
    obtain ⟨-, rfl, rfl⟩ | ⟨rest, hlog⟩ := split_snoc hsplit
    · exact hfound.trans h.value_eq
    · exact h.found_eq pre x rest hlog hopen htouches

theorem split_cases {pre' post' : List E} (h : pre ++ y :: post = pre' ++ x :: post') :
    (∃ rest, pre = pre' ++ x :: rest) ∨ (pre' = pre ∧ x = y) ∨
      ∃ between, pre' = pre ++ y :: between ∧ post = between ++ x :: post' := by
  obtain ⟨rest, hpre, hrest⟩ | ⟨rest, hpre, hrest⟩ := List.append_eq_append_iff.1 h
  · cases rest with
    | nil =>
        rw [List.nil_append] at hrest
        obtain ⟨rfl, -⟩ := List.cons.inj hrest
        exact .inr (.inl ⟨by simpa using hpre, rfl⟩)
    | cons z between =>
        obtain ⟨rfl, hpost⟩ := List.cons.inj hrest
        exact .inr (.inr ⟨between, hpre, hpost⟩)
  · cases rest with
    | nil =>
        rw [List.nil_append] at hrest
        obtain ⟨rfl, -⟩ := List.cons.inj hrest
        exact .inr (.inl ⟨by simpa using hpre.symm, rfl⟩)
    | cons z between =>
        obtain ⟨rfl, -⟩ := List.cons.inj hrest
        exact .inl ⟨between, hpre⟩

/-- **A change that does not matter**: another entry with the same effect, which is open only if
the old one was. -/
theorem Sound.revise (h : Sound history start value (pre ++ x :: post))
    (hupdate : history.update y = history.update x)
    (hundone : history.undone y = history.undone x)
    (hfound : history.isOpen y = true → history.isOpen x = true ∧
      history.found y = history.found x) (htouches : history.Touches y → history.Touches x) :
    Sound history start value (pre ++ y :: post) where
  value_eq := h.value_eq.trans (replay_revise hupdate hundone).symm
  found_eq := by
    intro pre' e post' hsplit hopen htouch
    obtain ⟨rest, rfl⟩ | ⟨rfl, rfl⟩ | ⟨between, rfl, rfl⟩ := split_cases hsplit
    · exact h.found_eq pre' e (rest ++ x :: post) (by simp) hopen htouch
    · obtain ⟨hx, hsame⟩ := hfound hopen
      exact hsame.trans (h.found_eq _ x post rfl hx (htouches htouch))
    · rw [replay_revise hupdate hundone]
      exact h.found_eq (pre ++ x :: between) e post' (by simp) hopen htouch

/-- **An undoing**, where every later update of the value has been undone. -/
theorem Sound.undo (h : Sound history start value (pre ++ x :: post))
    (hopen : history.isOpen x = true) (htouches : history.Touches x)
    (hundone : history.undone y = true) (hclosed : history.isOpen y = false)
    (hlast : ∀ z ∈ post, history.Touches z → history.undone z = true) :
    Sound history start (history.found x) (pre ++ y :: post) where
  value_eq := by
    rw [h.found_eq pre x post rfl hopen htouches, replay_append, replay_cons_undone hundone,
      replay_eq_self hlast]
  found_eq := by
    intro pre' e post' hsplit he htouch
    obtain ⟨rest, rfl⟩ | ⟨rfl, rfl⟩ | ⟨between, rfl, rfl⟩ := split_cases hsplit
    · exact h.found_eq pre' e (rest ++ x :: post) (by simp) he htouch
    · rw [hclosed] at he
      cases he
    · -- A later entry that is open is in place, so it does not touch the value.
      have hgone := hlast e (List.mem_append_right _ List.mem_cons_self) htouch
      rw [history.not_undone e he] at hgone
      cases hgone

theorem Sound.undo_untouched (h : Sound history start value (pre ++ x :: post))
    (hx : ¬ history.Touches x) (hlive : history.undone x = false)
    (hundone : history.undone y = true) (hclosed : history.isOpen y = false) :
    Sound history start value (pre ++ y :: post) := by
  have hsame : ∀ rest, history.replay start (pre ++ y :: rest) =
      history.replay start (pre ++ x :: rest) := by
    intro rest
    rw [replay_append, replay_append, replay_cons_undone hundone, replay_cons hlive,
      history.untouched x _ hx]
  refine ⟨h.value_eq.trans (hsame post).symm, ?_⟩
  intro pre' e post' hsplit he htouch
  obtain ⟨rest, rfl⟩ | ⟨rfl, rfl⟩ | ⟨between, rfl, rfl⟩ := split_cases hsplit
  · exact h.found_eq pre' e (rest ++ x :: post) (by simp) he htouch
  · rw [hclosed] at he
    cases he
  · rw [hsame]
    exact h.found_eq (pre ++ x :: between) e post' (by simp) he htouch

end History

end SnapshotUndo
