import Zentra.RaisingMethod

/-!
# Generators that may raise

A generator works on an object and yields items on the way; in the end it returns or raises,
and what it has yielded until then its caller has seen.

* `Run` — what a generator has yielded, how it ends, and the object it leaves;
* `yieldAll`, `perform`, `suspended` — items, calls of methods, and what others do meanwhile;
* `relay` — the items of another generator, passed on and looked at;
* `run_bind_returns`, `run_bind_raises` — a generator after another.
-/

open Raising

namespace PythonGenerator

/-- A run of a generator to its end. -/
structure Run (σ ι ε α : Type) where
  yielded : List ι
  outcome : Except ε α
  state : σ

/-- A generator of items of type `ι` that works on an object of type `σ`. -/
def Generator (σ ι ε α : Type) : Type := σ → Run σ ι ε α

variable {σ ι ε α β : Type}

/-- A run that comes after some items. -/
def Run.prepend (items : List ι) (r : Run σ ι ε α) : Run σ ι ε α :=
  { r with yielded := items ++ r.yielded }

namespace Generator

/-- Run the generator on the object `s`. -/
def run (g : Generator σ ι ε α) (s : σ) : Run σ ι ε α := g s

instance : Monad (Generator σ ι ε) where
  pure a := fun s => ⟨[], .ok a, s⟩
  bind g f := fun s =>
    match g s with
    | ⟨items, .ok a, t⟩ => (f a t).prepend items
    | ⟨items, .error e, t⟩ => ⟨items, .error e, t⟩

/-- `raise e`. -/
def raise (e : ε) : Generator σ ι ε α := fun s => ⟨[], .error e, s⟩

/-- `yield` of each of some items. -/
def yieldAll (items : List ι) : Generator σ ι ε Unit := fun s => ⟨items, .ok (), s⟩

/-- While the generator is suspended, others change the object. -/
def suspended (others : σ → σ) : Generator σ ι ε Unit := fun s => ⟨[], .ok (), others s⟩

/-- A call of a method of the object. -/
def perform (m : Method σ ε α) : Generator σ ι ε α := fun s => ⟨[], (m.call s).1, (m.call s).2⟩

/-- `async for item in g: yield item`, with the items that have been passed on. -/
def relay (g : Generator σ ι ε Unit) : Generator σ ι ε (List ι) := fun s =>
  let r := g s
  ⟨r.yielded, r.outcome.map fun _ => r.yielded, r.state⟩

section Runs

variable {g : Generator σ ι ε α} {f : α → Generator σ ι ε β} {s t : σ} {items : List ι}

/-- **A generator that returns** goes on with the next. -/
theorem run_bind_returns {a : α} (h : g.run s = ⟨items, .ok a, t⟩) :
    (g >>= f).run s = ((f a).run t).prepend items := by
  show (match g.run s with
    | ⟨items, .ok a, t⟩ => ((f a).run t).prepend items
    | ⟨items, .error e, t⟩ => ⟨items, .error e, t⟩) = _
  rw [h]

/-- **A generator that raises** does not go on. -/
theorem run_bind_raises {e : ε} (h : g.run s = ⟨items, .error e, t⟩) (f : α → Generator σ ι ε β) :
    (g >>= f).run s = ⟨items, .error e, t⟩ := by
  show (match g.run s with
    | ⟨items, .ok a, t⟩ => ((f a).run t).prepend items
    | ⟨items, .error e, t⟩ => ⟨items, .error e, t⟩) = _
  rw [h]

theorem run_yieldAll_bind (items : List ι) (f : Unit → Generator σ ι ε β) (s : σ) :
    (yieldAll items >>= f).run s = ((f ()).run s).prepend items := rfl

theorem run_suspended_bind (others : σ → σ) (f : Unit → Generator σ ι ε β) (s : σ) :
    (suspended others >>= f).run s = (f ()).run (others s) := rfl

theorem run_perform {m : Method σ ε α} {r : Except ε α} (h : m.call s = (r, t)) :
    (perform m : Generator σ ι ε α).run s = ⟨[], r, t⟩ := by
  unfold run perform
  rw [h]

theorem call_of_run_perform {m : Method σ ε α} {r : Except ε α}
    (h : (perform m : Generator σ ι ε α).run s = ⟨items, r, t⟩) : m.call s = (r, t) := by
  obtain ⟨-, houtcome, hstate⟩ := Run.mk.inj h
  exact Prod.ext houtcome hstate

theorem run_relay_returns {g : Generator σ ι ε Unit} (h : g.run s = ⟨items, .ok (), t⟩) :
    (relay g).run s = ⟨items, .ok items, t⟩ := by
  show (⟨(g.run s).yielded, (g.run s).outcome.map fun _ => (g.run s).yielded, (g.run s).state⟩ :
    Run σ ι ε (List ι)) = _
  rw [h]
  rfl

theorem run_relay_raises {g : Generator σ ι ε Unit} {e : ε} (h : g.run s = ⟨items, .error e, t⟩) :
    (relay g).run s = ⟨items, .error e, t⟩ := by
  show (⟨(g.run s).yielded, (g.run s).outcome.map fun _ => (g.run s).yielded, (g.run s).state⟩ :
    Run σ ι ε (List ι)) = _
  rw [h]
  rfl

theorem outcome_bind_eq_ok {b : β} :
    ((g >>= f).run s).outcome = .ok b ↔
      ∃ items a t, g.run s = ⟨items, .ok a, t⟩ ∧ ((f a).run t).outcome = .ok b := by
  rcases hrun : g.run s with ⟨items, e | a, t⟩
  · rw [run_bind_raises hrun]
    constructor
    · intro h
      cases h
    · intro ⟨_, _, _, h, _⟩
      cases h
  · rw [run_bind_returns hrun]
    constructor
    · intro h
      exact ⟨items, a, t, rfl, h⟩
    · intro ⟨_, _, _, h, hrest⟩
      cases h
      exact hrest

/-- A generator that yields nothing. -/
def Silent (g : Generator σ ι ε α) : Prop := ∀ s, (g.run s).yielded = []

theorem silent_pure (a : α) : Silent (pure a : Generator σ ι ε α) := fun _ => rfl

theorem silent_perform (m : Method σ ε α) : Silent (perform m : Generator σ ι ε α) := fun _ => rfl

theorem silent_suspended (others : σ → σ) :
    Silent (suspended others : Generator σ ι ε Unit) := fun _ => rfl

theorem Silent.bind (hg : Silent g) (hf : ∀ a, Silent (f a)) : Silent (g >>= f) := by
  intro s
  have hnone := hg s
  rcases hrun : g.run s with ⟨items, e | a, t⟩
  · rw [hrun] at hnone
    rw [run_bind_raises hrun]
    exact hnone
  · rw [hrun] at hnone
    rw [run_bind_returns hrun, Run.prepend, hf a t, List.append_nil]
    exact hnone

/-- **After a generator that yields nothing**, what is yielded is what the next one yields. -/
theorem Silent.run_bind {a : α} (hg : Silent g) (h : (g.run s).outcome = .ok a) :
    (g >>= f).run s = (f a).run (g.run s).state := by
  have hnone := hg s
  rcases hrun : g.run s with ⟨items, outcome, t⟩
  rw [hrun] at hnone h
  dsimp only at hnone h
  subst hnone
  subst h
  rw [run_bind_returns hrun]
  rfl

theorem Silent.run_bind_raises {e : ε} (hg : Silent g) (h : (g.run s).outcome = .error e) :
    ((g >>= f).run s).yielded = [] := by
  have hnone := hg s
  rcases hrun : g.run s with ⟨items, outcome, t⟩
  rw [hrun] at hnone h
  dsimp only at hnone h
  subst h
  rw [Generator.run_bind_raises hrun]
  exact hnone

end Runs

end Generator

end PythonGenerator
