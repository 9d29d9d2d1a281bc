import Zentra.StepTrace

/-!
# Methods of a mutable object that may raise

A method changes its object by assignments and may raise in between: whatever
was assigned before the raise stays assigned.  `Method σ ε α` keeps the object
in both outcomes, so that "a call that raises changes nothing" is a statement
with content.

* `Method.Atomic` — a call that raises leaves the object as it was;
* `Total.atomic`, `Atomic.raiseIf_bind` — a method that never raises is atomic,
  and a guard in front of an atomic method keeps it atomic: "check everything,
  then write";
* `onElement` — a method of an object as a method of a list of such objects;
* `returning` / `committing` / `calling` — a family of methods as a step
  function: over the calls that return, over all calls with a raise rolled
  back, and over all calls with a raise leaving its traces.
-/

namespace Raising

/-- A method of an object of type `σ`: it returns an `α` or raises an `ε`, and
either way it leaves the object in some state. -/
def Method (σ ε α : Type) : Type := σ → Except ε α × σ

namespace Method

variable {σ ε α β : Type}

/-- Call the method on the object `s`. -/
def call (m : Method σ ε α) (s : σ) : Except ε α × σ := m s

/-- The object after the call, whether it returned or raised. -/
def after (m : Method σ ε α) (s : σ) : σ := (m.call s).2

instance : Monad (Method σ ε) where
  pure a := fun s => (.ok a, s)
  bind m f := fun s =>
    match m s with
    | (.ok a, t) => f a t
    | (.error e, t) => (.error e, t)

/-- `raise e`. -/
def raise (e : ε) : Method σ ε α := fun s => (.error e, s)

/-- `if <p self>: raise <e self>`. -/
def raiseIf (p : σ → Prop) [DecidablePred p] (e : σ → ε) : Method σ ε Unit :=
  fun s => if p s then (.error (e s), s) else (.ok (), s)

def self : Method σ ε σ := fun s => (.ok s, s)

def assign (f : σ → σ) : Method σ ε Unit := fun s => (.ok (), f s)

/-- Evaluate a function that may raise and does not touch the object. -/
def eval (r : Except ε α) : Method σ ε α := fun s => (r, s)

@[simp] theorem call_pure (a : α) (s : σ) :
    (pure a : Method σ ε α).call s = (.ok a, s) := rfl

@[simp] theorem call_raise (e : ε) (s : σ) :
    (raise e : Method σ ε α).call s = (.error e, s) := rfl

@[simp] theorem call_self_bind (f : σ → Method σ ε β) (s : σ) :
    (self >>= f).call s = (f s).call s := rfl

theorem call_assign (f : σ → σ) (s : σ) :
    (assign f : Method σ ε Unit).call s = (.ok (), f s) := rfl

@[simp] theorem assign_returns {f : σ → σ} {s t : σ} :
    (assign f : Method σ ε Unit).call s = (.ok (), t) ↔ t = f s := by
  rw [call_assign]
  constructor
  · rintro ⟨⟩
    rfl
  · rintro rfl
    rfl

@[simp] theorem call_assign_bind (g : σ → σ) (f : Unit → Method σ ε β) (s : σ) :
    (assign g >>= f).call s = (f ()).call (g s) := rfl

theorem call_raiseIf_bind (p : σ → Prop) [DecidablePred p] (e : σ → ε)
    (f : Unit → Method σ ε β) (s : σ) :
    (raiseIf p e >>= f).call s =
      if p s then (.error (e s), s) else (f ()).call s := by
  by_cases hp : p s <;>
    simp [call, bind, raiseIf, hp]

/-- A method behind a guard returns when the guard lets it through and the
rest returns. -/
@[simp] theorem raiseIf_bind_returns {p : σ → Prop} [DecidablePred p] {e : σ → ε}
    {f : Unit → Method σ ε β} {s t : σ} {b : β} :
    (raiseIf p e >>= f).call s = (.ok b, t) ↔
      ¬ p s ∧ (f ()).call s = (.ok b, t) := by
  rw [call_raiseIf_bind]
  by_cases hp : p s
  · simp [hp]
  · simp [hp]

/-- A method behind a computation returns when the computation does and the
rest returns on its result. -/
@[simp] theorem eval_bind_returns {r : Except ε α} {f : α → Method σ ε β}
    {s t : σ} {b : β} :
    (eval r >>= f).call s = (.ok b, t) ↔
      ∃ a, r = .ok a ∧ (f a).call s = (.ok b, t) := by
  cases r with
  | error e =>
      constructor
      · intro h
        cases h
      · rintro ⟨a, h, -⟩
        cases h
  | ok a =>
      constructor
      · intro h
        exact ⟨a, rfl, h⟩
      · rintro ⟨a', h, hrest⟩
        cases h
        exact hrest

/-- A call of a sequence raises, or its first part returns and the rest is
called on the object that part left. -/
theorem call_bind (m : Method σ ε α) (f : α → Method σ ε β) (s : σ) :
    (m >>= f).call s =
      match m.call s with
      | (.ok a, t) => (f a).call t
      | (.error e, t) => (.error e, t) := rfl

theorem bind_returns {m : Method σ ε α} {f : α → Method σ ε β} {s t : σ} {b : β} :
    (m >>= f).call s = (.ok b, t) ↔
      ∃ a u, m.call s = (.ok a, u) ∧ (f a).call u = (.ok b, t) := by
  rw [call_bind]
  rcases m.call s with ⟨e | a, u⟩
  · simp
  · constructor
    · intro h
      exact ⟨a, u, rfl, h⟩
    · rintro ⟨a', u', h, hrest⟩
      cases h
      exact hrest

theorem bind_raises {m : Method σ ε α} {s t : σ} {e : ε} (h : m.call s = (.error e, t))
    (f : α → Method σ ε β) : (m >>= f).call s = (.error e, t) := by
  rw [call_bind, h]

theorem bind_bind {γ : Type} (m : Method σ ε α) (f : α → Method σ ε β) (g : β → Method σ ε γ) :
    m >>= f >>= g = m >>= fun a => f a >>= g := by
  funext s
  show (match (match m s with
      | (.ok a, t) => f a t
      | (.error e, t) => (.error e, t)) with
    | (.ok b, t) => g b t
    | (.error e, t) => (.error e, t)) = _
  show _ = match m s with
    | (.ok a, t) => (f a >>= g) t
    | (.error e, t) => (.error e, t)
  rcases m s with ⟨e | a, t⟩
  · rfl
  · rfl

/-- A call that raises leaves the object exactly as it was. -/
def Atomic (m : Method σ ε α) : Prop :=
  ∀ s e t, m.call s = (.error e, t) → t = s

def Total (m : Method σ ε α) : Prop := ∀ s, ∃ a t, m.call s = (.ok a, t)

theorem Total.atomic {m : Method σ ε α} (h : Total m) : Atomic m := by
  intro s e t hraise
  obtain ⟨a, u, hok⟩ := h s
  rw [hok] at hraise
  cases hraise

theorem total_assign (f : σ → σ) : Total (assign f : Method σ ε Unit) :=
  fun s => ⟨(), f s, rfl⟩

theorem Atomic.raiseIf_bind {p : σ → Prop} [DecidablePred p] {e : σ → ε}
    {f : Unit → Method σ ε β} (h : Atomic (f ())) :
    Atomic (raiseIf p e >>= f) := by
  intro s e' t hraise
  rw [call_raiseIf_bind] at hraise
  by_cases hp : p s
  · rw [if_pos hp] at hraise
    cases hraise
    rfl
  · rw [if_neg hp] at hraise
    exact h s e' t hraise

theorem Atomic.self_bind {f : σ → Method σ ε β} (h : ∀ s, Atomic (f s)) :
    Atomic (self >>= f) :=
  fun s e t hraise => h s s e t hraise

theorem total_pure (a : α) : Total (pure a : Method σ ε α) := fun s => ⟨a, s, rfl⟩

theorem Total.bind {m : Method σ ε α} {f : α → Method σ ε β} (hm : Total m)
    (hf : ∀ a, Total (f a)) : Total (m >>= f) := by
  intro s
  obtain ⟨a, t, hcall⟩ := hm s
  rw [call_bind, hcall]
  exact hf a t

theorem Total.after_bind {m : Method σ ε Unit} {f : Unit → Method σ ε β} (hm : Total m)
    (s : σ) : (m >>= f).after s = (f ()).after (m.after s) := by
  obtain ⟨⟨⟩, t, hcall⟩ := hm s
  simp only [after, call_bind, hcall]

section Element

variable {m : Method σ ε Unit}

/-- Call the method on the element at a position, if there is one. -/
def onElement (m : Method σ ε Unit) (index : Nat) : Method (List σ) ε Unit := fun elements =>
  match elements[index]? with
  | some element => ((m.call element).1, elements.set index (m.after element))
  | none => (.ok (), elements)

@[simp] theorem length_onElement (m : Method σ ε Unit) (index : Nat) (elements : List σ) :
    ((onElement m index).after elements).length = elements.length := by
  simp only [Method.after, call, onElement]
  split <;> simp

/-- The element at the position is the only one that changes. -/
theorem getElem?_onElement (m : Method σ ε Unit) (index other : Nat) (elements : List σ) :
    ((onElement m index).after elements)[other]? =
      if index = other then elements[other]?.map m.after else elements[other]? := by
  simp only [Method.after, call, onElement]
  split
  next element helement =>
      by_cases hindex : index = other
      · subst hindex
        have hlength : index < elements.length := (List.getElem?_eq_some_iff.1 helement).1
        rw [List.getElem?_set_self hlength, if_pos rfl, helement]
        rfl
      · rw [List.getElem?_set_ne hindex, if_neg hindex]
  next hnone =>
      by_cases hindex : index = other
      · subst hindex
        rw [if_pos rfl, hnone]
        rfl
      · rw [if_neg hindex]

theorem Atomic.onElement (h : Atomic m) (index : Nat) : Atomic (onElement m index) := by
  intro elements e after hraise
  simp only [call, Method.onElement] at hraise
  split at hraise
  next element helement =>
      obtain ⟨herror, hafter⟩ := Prod.mk.inj hraise
      have hunchanged : m.after element = element :=
        h element e (m.after element) (Prod.ext herror rfl)
      rw [← hafter, hunchanged]
      obtain ⟨hlength, rfl⟩ := List.getElem?_eq_some_iff.1 helement
      exact List.set_getElem_self hlength
  next => cases hraise

theorem Total.onElement (h : Total m) (index : Nat) : Total (onElement m index) := by
  intro elements
  simp only [call, Method.onElement]
  split
  next element _ =>
      obtain ⟨⟨⟩, after, hcall⟩ := h element
      have hreturns : (m.call element).1 = .ok () := congrArg Prod.fst hcall
      exact ⟨(), elements.set index (m.after element), Prod.ext hreturns rfl⟩
  next => exact ⟨(), elements, rfl⟩

end Element

end Method

section Computations

variable {ε α β : Type}

@[simp] theorem bind_eq_ok {x : Except ε α} {f : α → Except ε β} {b : β} :
    (x >>= f) = .ok b ↔ ∃ a, x = .ok a ∧ f a = .ok b := by
  cases x with
  | error e =>
      constructor
      · intro h
        cases h
      · rintro ⟨a, h, -⟩
        cases h
  | ok a =>
      constructor
      · intro h
        exact ⟨a, rfl, h⟩
      · rintro ⟨a', h, hrest⟩
        cases h
        exact hrest

@[simp] theorem pure_eq_ok {a b : α} : (pure a : Except ε α) = .ok b ↔ a = b := by
  constructor
  · rintro ⟨⟩
    rfl
  · rintro rfl
    rfl

@[simp] theorem throw_ne_ok {e : ε} {a : α} : (throw e : Except ε α) ≠ .ok a := by
  intro h
  cases h

theorem eq_ok_of_toOption {r : Except ε α} {a : α} (h : r.toOption = some a) :
    r = .ok a := by
  cases r with
  | error e => cases h
  | ok b =>
      cases h
      rfl

end Computations

variable {σ ε op : Type}

/-- Calls that return, as a step function: a call that raises is not a step. -/
def returning (methods : op → Method σ ε Unit) (s : σ) (o : op) : Option σ :=
  match (methods o).call s with
  | (.ok (), t) => some t
  | (.error _, _) => none

/-- All calls, as a step function: the caller of a call that raises goes on
with the object the raise left behind. -/
def calling (methods : op → Method σ ε Unit) (s : σ) (o : op) : Option σ :=
  some ((methods o).after s)

/-- A call of an atomic method returns, or it changes nothing. -/
theorem calling_atomic {methods : op → Method σ ε Unit} (hatomic : ∀ o, (methods o).Atomic)
    {s t : σ} {o : op} (h : calling methods s o = some t) :
    (methods o).call s = (.ok (), t) ∨
      (t = s ∧ ∀ u, (methods o).call s ≠ (.ok (), u)) := by
  have hafter : ((methods o).call s).2 = t := Option.some.inj h
  rcases hcall : (methods o).call s with ⟨_ | ⟨⟩, u⟩
  · rw [hcall] at hafter
    subst hafter
    exact .inr ⟨hatomic o s _ _ hcall, by simp⟩
  · rw [hcall] at hafter
    subst hafter
    exact .inl rfl

theorem run_calling (methods : op → Method σ ε Unit) (s : σ) (os : List op) :
    ∃ t, StepTrace.run (calling methods) s os = some t := by
  induction os generalizing s with
  | nil => exact ⟨s, rfl⟩
  | cons o os ih => exact ih ((methods o).after s)

theorem returning_eq_some {methods : op → Method σ ε Unit} {s t : σ} {o : op} :
    returning methods s o = some t ↔ (methods o).call s = (.ok (), t) := by
  unfold returning
  rcases (methods o).call s with ⟨_ | ⟨⟩, u⟩ <;> simp

/-- Calls in a transaction of their own, as a step function: a call that raises
is rolled back. -/
def committing (methods : op → Method σ ε Unit) (s : σ) (o : op) : Option σ :=
  match (methods o).call s with
  | (.ok (), t) => some t
  | (.error _, _) => some s

theorem committing_cases {methods : op → Method σ ε Unit} {s t : σ} {o : op}
    (h : committing methods s o = some t) :
    (methods o).call s = (.ok (), t) ∨
      (t = s ∧ ∀ u, (methods o).call s ≠ (.ok (), u)) := by
  unfold committing at h
  rcases hcall : (methods o).call s with ⟨_ | ⟨⟩, u⟩
  · rw [hcall] at h
    cases h
    exact .inr ⟨rfl, by simp⟩
  · rw [hcall] at h
    cases h
    exact .inl rfl

end Raising
