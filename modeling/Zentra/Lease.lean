import Mathlib.Order.Lattice
/-!
# Leases with an expiry

At most one party holds a lease, up to some time.  Another one may take it over
from that time on; until then only the holder extends it, gives it back, or
closes it for good.

* `Lease.Guarded` — the lease is closed, or held by `w` at least until `e`;
* `Guarded.step` — events before `e` keep it guarded, unless the holder itself
  gives the lease back or extends it to an earlier time;
* `Guarded.refuses` — nobody acquires a guarded lease before `e`;
* `changed_by_owner` — what can happen to a held lease before it expires.
-/

namespace Lease

variable {W T : Type} [DecidableEq W] [LinearOrder T]

/-- Free, held by a party up to a time, or closed for good. -/
inductive State (W T : Type)
  | free
  | held (owner : W) (expires : T)
  | closed

/-- What can happen to a lease, and when.  `withdraw` closes a lease that nobody
holds, `other` stands for whatever does not concern it. -/
inductive Event (W T : Type)
  | acquire (w : W) (now expires : T)
  | extend (w : W) (now expires : T)
  | release (w : W) (now : T)
  | finish (w : W) (now : T)
  | withdraw (now : T)
  | other (now : T)

def Event.now : Event W T → T
  | acquire _ now _ => now
  | extend _ now _ => now
  | release _ now => now
  | finish _ now => now
  | withdraw now => now
  | other now => now

/-- The lease after an event, if the event is possible. -/
def step : State W T → Event W T → Option (State W T)
  | .free, .acquire w _ expires => some (.held w expires)
  | .held _ current, .acquire w now expires =>
      if current ≤ now then some (.held w expires) else none
  | .held owner current, .extend w now expires =>
      if owner = w ∧ now < current then some (.held w expires) else none
  | .held owner _, .release w _ => if owner = w then some .free else none
  | .held owner _, .finish w _ => if owner = w then some .closed else none
  | .free, .withdraw _ => some .closed
  | s, .other _ => some s
  | _, _ => none

/-- The lease is closed, or `w` holds it at least until `e`. -/
def Guarded (w : W) (e : T) : State W T → Prop
  | .free => False
  | .held owner expires => owner = w ∧ e ≤ expires
  | .closed => True

/-- The event is not one by which `w` itself lets go of the lease before `e`. -/
def Keeps (w : W) (e : T) : Event W T → Prop
  | .extend owner _ expires => owner = w → e ≤ expires
  | .release owner _ => owner ≠ w
  | _ => True

variable {w : W} {e : T} {s t : State W T} {event : Event W T}

/-- **Step lemma.**  Before `e`, a lease that `w` holds until `e` stays with
`w`. -/
theorem Guarded.step (h : Guarded w e s) (hkeeps : Keeps w e event)
    (hearly : event.now < e) (hstep : Lease.step s event = some t) :
    Guarded w e t := by
  cases s with
  | free => exact absurd h id
  | closed =>
      cases event with
      | other now =>
          cases hstep
          exact h
      | _ => cases hstep
  | held owner current =>
      obtain ⟨rfl, hcurrent⟩ := h
      cases event with
      | acquire o now expires =>
          have hactive : ¬ current ≤ now :=
            not_le.2 (lt_of_lt_of_le hearly hcurrent)
          simp [Lease.step, hactive] at hstep
      | extend o now expires =>
          by_cases howner : owner = o ∧ now < current
          · simp only [Lease.step, if_pos howner] at hstep
            cases hstep
            exact ⟨howner.1.symm, hkeeps howner.1.symm⟩
          · simp [Lease.step, if_neg howner] at hstep
      | release o now =>
          have hother : owner ≠ o := fun heq => hkeeps heq.symm
          simp [Lease.step, hother] at hstep
      | finish o now =>
          by_cases howner : owner = o
          · simp only [Lease.step, if_pos howner] at hstep
            cases hstep
            trivial
          · simp [Lease.step, howner] at hstep
      | withdraw now => cases hstep
      | other now =>
          cases hstep
          exact ⟨rfl, hcurrent⟩

theorem Guarded.refuses (h : Guarded w e s) {o : W} {now expires : T}
    (hearly : now < e) : Lease.step s (.acquire o now expires) = none := by
  cases s with
  | free => exact absurd h id
  | closed => rfl
  | held owner current =>
      have hactive : ¬ current ≤ now := not_le.2 (lt_of_lt_of_le hearly h.2)
      simp [Lease.step, hactive]

/-- Taking or extending a lease until `e` guards it until `e`. -/
theorem guarded_of_take {now expires : T}
    (h : Lease.step s (.acquire w now expires) = some t ∨
      Lease.step s (.extend w now expires) = some t) :
    Guarded w expires t := by
  have hheld : t = .held w expires := by
    rcases h with h | h
    · cases s with
      | free => exact (Option.some.inj h).symm
      | closed => cases h
      | held owner current =>
          by_cases hexpired : current ≤ now
          · simp only [Lease.step, if_pos hexpired] at h
            exact (Option.some.inj h).symm
          · simp [Lease.step, hexpired] at h
    · cases s with
      | free => cases h
      | closed => cases h
      | held owner current =>
          by_cases howner : owner = w ∧ now < current
          · simp only [Lease.step, if_pos howner] at h
            exact (Option.some.inj h).symm
          · simp [Lease.step, if_neg howner] at h
  subst hheld
  exact ⟨rfl, le_refl expires⟩

theorem changed_by_owner {expires : T} (hearly : event.now < expires)
    (hstep : Lease.step (.held w expires) event = some t) :
    (∃ now later, event = .extend w now later) ∨ (∃ now, event = .release w now) ∨
      (∃ now, event = .finish w now) ∨ (∃ now, event = .other now) := by
  cases event with
  | acquire o now later =>
      have hactive : ¬ expires ≤ now := not_le.2 hearly
      simp [Lease.step, hactive] at hstep
  | extend o now later =>
      by_cases howner : w = o ∧ now < expires
      · exact .inl ⟨now, later, by rw [howner.1]⟩
      · simp [Lease.step, if_neg howner] at hstep
  | release o now =>
      by_cases howner : w = o
      · exact .inr (.inl ⟨now, by rw [howner]⟩)
      · simp [Lease.step, howner] at hstep
  | finish o now =>
      by_cases howner : w = o
      · exact .inr (.inr (.inl ⟨now, by rw [howner]⟩))
      · simp [Lease.step, howner] at hstep
  | withdraw now => cases hstep
  | other now => exact .inr (.inr (.inr ⟨now, rfl⟩))

end Lease
