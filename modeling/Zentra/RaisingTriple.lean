import Mathlib.Order.Basic
import Zentra.RaisingMethod

/-!
# Pre- and postconditions of methods that may raise

`Triple before m after raised`: a call from a state where `before` holds either
returns into a state where `after` holds of the result and the state, or raises
into a state where `raised` holds of the exception and the state.

* `Triple.bind`, `Triple.catching` — the rules for `;` and for `try … except`;
* `Keeps` — a method never touches what `view` reads of its object, whether it
  returns or raises, and the rules that show this from the text of the method;
* `Keeps.bind_triple`, `Keeps.preserves` — such a method in a longer argument;
* `RaisesOnly` — the exceptions of a method;
* `Grows` — what a method reads of its object never goes down.
-/

namespace Raising

namespace Method

variable {σ τ ε ε' α β γ : Type}

/-- `try: m` `except e: handler e`. -/
def catching (m : Method σ ε α) (handler : ε → Method σ ε' α) : Method σ ε' α := fun s =>
  match m s with
  | (.ok a, t) => (.ok a, t)
  | (.error e, t) => handler e t

theorem call_catching (m : Method σ ε α) (handler : ε → Method σ ε' α) (s : σ) :
    (m.catching handler).call s =
      match m.call s with
      | (.ok a, t) => (.ok a, t)
      | (.error e, t) => (handler e).call t := rfl

/-- A method of a part of the object. -/
def zoom (get : σ → τ) (put : τ → σ → σ) (wrap : ε → ε') (m : Method τ ε α) :
    Method σ ε' α := fun s =>
  match m (get s) with
  | (.ok a, part) => (.ok a, put part s)
  | (.error e, part) => (.error (wrap e), put part s)

theorem call_zoom (get : σ → τ) (put : τ → σ → σ) (wrap : ε → ε') (m : Method τ ε α) (s : σ) :
    (zoom get put wrap m).call s =
      match m.call (get s) with
      | (.ok a, part) => (.ok a, put part s)
      | (.error e, part) => (.error (wrap e), put part s) := rfl

theorem zoom_returns {get : σ → τ} {put : τ → σ → σ} {wrap : ε → ε'} {m : Method τ ε α}
    {s t : σ} {a : α} :
    (zoom get put wrap m).call s = (.ok a, t) ↔
      ∃ part, m.call (get s) = (.ok a, part) ∧ put part s = t := by
  rw [call_zoom]
  rcases m.call (get s) with ⟨e | found, part⟩
  · simp
  · constructor
    · intro h
      cases h
      exact ⟨part, rfl, rfl⟩
    · rintro ⟨part', h, rfl⟩
      cases h
      rfl

/-- `try … except` returns what is returned, or what the handler does of what is raised. -/
theorem catching_returns {m : Method σ ε α} {handler : ε → Method σ ε' α} {s t : σ} {a : α} :
    (m.catching handler).call s = (.ok a, t) ↔ m.call s = (.ok a, t) ∨
      ∃ e u, m.call s = (.error e, u) ∧ (handler e).call u = (.ok a, t) := by
  rw [call_catching]
  rcases m.call s with ⟨e | found, u⟩
  · constructor
    · intro h
      exact .inr ⟨e, u, rfl, h⟩
    · rintro (h | ⟨e', u', h, hhandled⟩)
      · cases h
      · cases h
        exact hhandled
  · simp

/-- What holds of the result and the object after a call. -/
def Outcome (after : α → σ → Prop) (raised : ε → σ → Prop) :
    Except ε α × σ → Prop
  | (.ok a, t) => after a t
  | (.error e, t) => raised e t

/-- From every state that satisfies `before`, the call returns into `after` or raises
into `raised`. -/
def Triple (before : σ → Prop) (m : Method σ ε α) (after : α → σ → Prop)
    (raised : ε → σ → Prop) : Prop :=
  ∀ s, before s → Outcome after raised (m.call s)

section Triples

variable {before between : σ → Prop} {after after' : α → σ → Prop}
  {raised raised' : ε → σ → Prop} {m : Method σ ε α}

theorem Triple.returns {s t : σ} {a : α} (h : Triple before m after raised)
    (hs : before s) (hcall : m.call s = (.ok a, t)) : after a t := by
  have hout := h s hs
  rw [hcall] at hout
  exact hout

theorem Triple.raises {s t : σ} {e : ε} (h : Triple before m after raised)
    (hs : before s) (hcall : m.call s = (.error e, t)) : raised e t := by
  have hout := h s hs
  rw [hcall] at hout
  exact hout

theorem Triple.holds_after {good : σ → Prop} {s : σ}
    (h : Triple before m (fun _ => good) fun _ => good) (hs : before s) :
    good (m.after s) := by
  have hout := h s hs
  unfold Method.after
  rcases hcall : m.call s with ⟨_ | a, t⟩
  · rw [hcall] at hout
    exact hout
  · rw [hcall] at hout
    exact hout

/-- **Consequence.** -/
theorem Triple.conseq (h : Triple before m after raised)
    (hbefore : ∀ s, between s → before s) (hafter : ∀ a s, after a s → after' a s)
    (hraised : ∀ e s, raised e s → raised' e s) : Triple between m after' raised' := by
  intro s hs
  have hout := h s (hbefore s hs)
  rcases hcall : m.call s with ⟨e | a, t⟩
  · rw [hcall] at hout
    exact hraised e t hout
  · rw [hcall] at hout
    exact hafter a t hout

theorem triple_trivial :
    Triple before m (fun _ _ => True) fun _ _ => True := by
  intro s _
  rcases m.call s with ⟨e | a, t⟩
  · exact trivial
  · exact trivial

theorem Triple.of_each (h : ∀ s, before s → Triple (fun t => t = s) m after raised) :
    Triple before m after raised :=
  fun s hs => h s hs s rfl

theorem triple_pure {a : α} (h : ∀ s, before s → after a s) :
    Triple before (pure a : Method σ ε α) after raised :=
  fun s hs => h s hs

theorem triple_raise {e : ε} (h : ∀ s, before s → raised e s) :
    Triple before (raise e : Method σ ε α) after raised :=
  fun s hs => h s hs

theorem triple_assign {f : σ → σ} {after : Unit → σ → Prop}
    (h : ∀ s, before s → after () (f s)) :
    Triple before (assign f : Method σ ε Unit) after raised :=
  fun s hs => h s hs

theorem triple_eval {r : Except ε α} (hok : ∀ a, r = .ok a → ∀ s, before s → after a s)
    (herror : ∀ e, r = .error e → ∀ s, before s → raised e s) :
    Triple before (eval r : Method σ ε α) after raised := by
  intro s hs
  cases r with
  | error e => exact herror e rfl s hs
  | ok a => exact hok a rfl s hs

/-- **Sequence.** -/
theorem Triple.bind {f : α → Method σ ε β} {after : β → σ → Prop}
    {middle : α → σ → Prop} (hm : Triple before m middle raised)
    (hf : ∀ a, Triple (middle a) (f a) after raised) :
    Triple before (m >>= f) after raised := by
  intro s hs
  have hout := hm s hs
  rw [call_bind]
  rcases hcall : m.call s with ⟨e | a, t⟩
  · rw [hcall] at hout
    exact hout
  · rw [hcall] at hout
    exact hf a t hout

theorem Triple.and {before' : σ → Prop} (h : Triple before m after raised)
    (h' : Triple before' m after' raised') :
    Triple (fun s => before s ∧ before' s) m (fun a s => after a s ∧ after' a s)
      fun e s => raised e s ∧ raised' e s := by
  intro s hs
  have hout := h s hs.1
  have hout' := h' s hs.2
  rcases hcall : m.call s with ⟨e | a, t⟩
  · rw [hcall] at hout hout'
    exact ⟨hout, hout'⟩
  · rw [hcall] at hout hout'
    exact ⟨hout, hout'⟩

theorem triple_self_bind {f : σ → Method σ ε β} {after : β → σ → Prop}
    (h : ∀ s, before s → Triple (fun t => t = s) (f s) after raised) :
    Triple before (self >>= f) after raised :=
  fun s hs => h s hs s rfl

/-- **`try … except`.** -/
theorem Triple.catching {handler : ε → Method σ ε' α} {raised' : ε' → σ → Prop}
    (hm : Triple before m after raised)
    (hhandler : ∀ e, Triple (raised e) (handler e) after raised') :
    Triple before (m.catching handler) after raised' := by
  intro s hs
  have hout := hm s hs
  rw [call_catching]
  rcases hcall : m.call s with ⟨e | a, t⟩
  · rw [hcall] at hout
    exact hhandler e t hout
  · rw [hcall] at hout
    exact hout

end Triples

/-- However the call ends, what `view` reads of the object is unchanged. -/
def Keeps (view : σ → γ) (m : Method σ ε α) : Prop := ∀ s, view (m.after s) = view s

section Frames

variable {view : σ → γ} {m : Method σ ε α}

theorem Keeps.returns {s t : σ} {a : α} (h : Keeps view m)
    (hcall : m.call s = (.ok a, t)) : view t = view s := by
  have hview := h s
  unfold Method.after at hview
  rw [hcall] at hview
  exact hview

theorem Keeps.raises {s t : σ} {e : ε} (h : Keeps view m)
    (hcall : m.call s = (.error e, t)) : view t = view s := by
  have hview := h s
  unfold Method.after at hview
  rw [hcall] at hview
  exact hview

/-- What holds of the part that is kept holds afterwards. -/
theorem Keeps.preserves (h : Keeps view m) (good : γ → Prop) :
    Triple (fun s => good (view s)) m (fun _ s => good (view s))
      fun _ s => good (view s) := by
  intro s hs
  rcases hcall : m.call s with ⟨e | a, t⟩
  · show good (view t)
    rw [h.raises hcall]
    exact hs
  · show good (view t)
    rw [h.returns hcall]
    exact hs

/-- **Frame.**  A sequence can be reasoned about from behind a method that keeps what the
argument is about. -/
theorem Keeps.bind_preserves {f : α → Method σ ε β} {after : β → σ → Prop}
    {raised : ε → σ → Prop} (h : Keeps view m) (good : γ → Prop)
    (hraised : ∀ e s, good (view s) → raised e s)
    (hf : ∀ a, Triple (fun s => good (view s)) (f a) after raised) :
    Triple (fun s => good (view s)) (m >>= f) after raised :=
  ((h.preserves good).conseq (fun _ hs => hs) (fun _ _ hs => hs) hraised).bind hf

theorem Keeps.bind_triple {f : α → Method σ ε β} {after : β → σ → Prop}
    {raised : ε → σ → Prop} {part : γ} (h : Keeps view m)
    (hraised : ∀ e s, view s = part → raised e s)
    (hf : ∀ a, Triple (fun s => view s = part) (f a) after raised) :
    Triple (fun s => view s = part) (m >>= f) after raised :=
  h.bind_preserves (· = part) hraised hf

theorem keeps_pure {a : α} : Keeps view (pure a : Method σ ε α) := fun _ => rfl

theorem keeps_raise {e : ε} : Keeps view (raise e : Method σ ε α) := fun _ => rfl

theorem keeps_self : Keeps view (self : Method σ ε σ) := fun _ => rfl

theorem keeps_eval {r : Except ε α} : Keeps view (eval r : Method σ ε α) := fun _ => rfl

theorem keeps_raiseIf {p : σ → Prop} [DecidablePred p] {e : σ → ε} :
    Keeps view (raiseIf p e) := by
  intro s
  by_cases hp : p s
  · simp [Method.after, call, raiseIf, hp]
  · simp [Method.after, call, raiseIf, hp]

theorem keeps_assign {f : σ → σ} (h : ∀ s, view (f s) = view s) :
    Keeps view (assign f : Method σ ε Unit) := h

theorem Keeps.bind {f : α → Method σ ε β} (hm : Keeps view m)
    (hf : ∀ a, Keeps view (f a)) : Keeps view (m >>= f) := by
  intro s
  have hview := hm s
  unfold Method.after at hview ⊢
  rw [call_bind]
  rcases hcall : m.call s with ⟨e | a, t⟩
  · rw [hcall] at hview
    exact hview
  · rw [hcall] at hview
    exact (hf a t).trans hview

theorem keeps_assign_bind {f : σ → σ} {rest : Unit → Method σ ε β}
    (h : ∀ s, view (f s) = view s) (hrest : Keeps view (rest ())) :
    Keeps view (assign f >>= rest) :=
  (keeps_assign h).bind fun _ => hrest

theorem Keeps.map {δ : Type} (h : Keeps view m) (f : γ → δ) : Keeps (fun s => f (view s)) m :=
  fun s => congrArg f (h s)

theorem keeps_zoom {get : σ → τ} {put : τ → σ → σ} {wrap : ε → ε'} {m : Method τ ε α}
    (h : ∀ part s, view (put part s) = view s) : Keeps view (zoom get put wrap m) := by
  intro s
  rcases hcall : m (get s) with ⟨e | a, part⟩
  · simp [Method.after, call, zoom, hcall, h]
  · simp [Method.after, call, zoom, hcall, h]

end Frames

/-- Every exception of the method is one of those. -/
def RaisesOnly (good : ε → Prop) (m : Method σ ε α) : Prop :=
  ∀ s e t, m.call s = (.error e, t) → good e

section Exceptions

variable {good : ε → Prop} {m : Method σ ε α}

theorem Total.raisesOnly (h : Total m) : RaisesOnly good m := by
  intro s e t hraise
  obtain ⟨a, u, hok⟩ := h s
  rw [hok] at hraise
  cases hraise

theorem raisesOnly_pure {a : α} : RaisesOnly good (pure a : Method σ ε α) :=
  (total_pure a).raisesOnly

theorem raisesOnly_assign {f : σ → σ} : RaisesOnly good (assign f : Method σ ε Unit) :=
  (total_assign f).raisesOnly

theorem raisesOnly_raise {e : ε} (h : good e) : RaisesOnly good (raise e : Method σ ε α) := by
  intro s _ t hraise
  cases hraise
  exact h

theorem raisesOnly_raiseIf {p : σ → Prop} [DecidablePred p] {e : σ → ε} (h : ∀ s, good (e s)) :
    RaisesOnly good (raiseIf p e : Method σ ε Unit) := by
  intro s _ t hraise
  by_cases hp : p s
  · simp only [call, raiseIf, hp, if_true, Prod.mk.injEq, Except.error.injEq] at hraise
    exact hraise.1 ▸ h s
  · simp [call, raiseIf, hp] at hraise

theorem raisesOnly_eval {r : Except ε α} (h : ∀ e, r = .error e → good e) :
    RaisesOnly good (eval r : Method σ ε α) := by
  intro s e t hraise
  cases hraise
  exact h e rfl

theorem RaisesOnly.bind {f : α → Method σ ε β} (hm : RaisesOnly good m)
    (hf : ∀ a, RaisesOnly good (f a)) : RaisesOnly good (m >>= f) := by
  intro s e t hraise
  rw [call_bind] at hraise
  rcases hcall : m.call s with ⟨error | a, u⟩
  · rw [hcall] at hraise
    cases hraise
    exact hm s _ _ hcall
  · rw [hcall] at hraise
    exact hf a u e t hraise

theorem raisesOnly_eval_bind {r : Except ε α} {f : α → Method σ ε β}
    (h : ∀ e, r = .error e → good e) (hf : ∀ a, r = .ok a → RaisesOnly good (f a)) :
    RaisesOnly good (eval r >>= f) := by
  intro s e t hraise
  cases r with
  | error error =>
      cases hraise
      exact h _ rfl
  | ok a => exact hf a rfl s e t hraise

theorem raisesOnly_self_bind {f : σ → Method σ ε β} (h : ∀ s, RaisesOnly good (f s)) :
    RaisesOnly good (self >>= f) :=
  fun s e t hraise => h s s e t hraise

theorem raisesOnly_zoom {get : σ → τ} {put : τ → σ → σ} {wrap : ε' → ε} {m : Method τ ε' α}
    (h : RaisesOnly (fun e => good (wrap e)) m) : RaisesOnly good (zoom get put wrap m) := by
  intro s e t hraise
  rw [call_zoom] at hraise
  rcases hcall : m.call (get s) with ⟨error | a, part⟩
  · rw [hcall] at hraise
    cases hraise
    exact h (get s) _ _ hcall
  · rw [hcall] at hraise
    cases hraise

theorem raisesOnly_catching {m : Method σ ε' α} {handler : ε' → Method σ ε α}
    (h : ∀ e, RaisesOnly good (handler e)) : RaisesOnly good (m.catching handler) := by
  intro s e t hraise
  rw [call_catching] at hraise
  rcases hcall : m.call s with ⟨error | a, u⟩
  · rw [hcall] at hraise
    exact h error u e t hraise
  · rw [hcall] at hraise
    cases hraise

end Exceptions

/-- However the call ends, what `view` reads of the object has not gone down. -/
def Grows [Preorder γ] (view : σ → γ) (m : Method σ ε α) : Prop := ∀ s, view s ≤ view (m.after s)

section Growth

variable [Preorder γ] {view : σ → γ} {m : Method σ ε α}

theorem Grows.returns {s t : σ} {a : α} (h : Grows view m)
    (hcall : m.call s = (.ok a, t)) : view s ≤ view t := by
  have hview := h s
  unfold Method.after at hview
  rw [hcall] at hview
  exact hview

theorem Keeps.grows (h : Keeps view m) : Grows view m := fun s => le_of_eq (h s).symm

theorem grows_assign {f : σ → σ} (h : ∀ s, view s ≤ view (f s)) :
    Grows view (assign f : Method σ ε Unit) := h

theorem Grows.bind {f : α → Method σ ε β} (hm : Grows view m)
    (hf : ∀ a, Grows view (f a)) : Grows view (m >>= f) := by
  intro s
  have hview := hm s
  unfold Method.after at hview ⊢
  rw [call_bind]
  rcases hcall : m.call s with ⟨e | a, t⟩
  · rw [hcall] at hview
    exact hview
  · rw [hcall] at hview
    exact hview.trans (hf a t)

end Growth

end Method

end Raising
