import Mathlib.Data.List.Basic

/-!
# The circuit breaker of the model providers

One breaker is shared by all the calls of a process.  For every provider it keeps
the outcomes of the last calls, when it was opened, and whether a probe is under
way.  Moments are microseconds.

* `ProviderCircuitBreaker.state`, `allow`, `recordSuccess`, `recordFailure` — the
  methods, each with the reading of the clock that it takes;
* `probing_allow`, `probing_recordSuccess`, `probing_recordFailure` — what each of
  them does to the flags of all providers.
-/

namespace Zentra

namespace ModelProviders

inductive Provider
  | anthropic
  | openai
  | gemini
  | nvidia
  | groq
  | cerebras
  | openrouter
  deriving DecidableEq, Repr

inductive BreakerState
  | closed
  | opened
  | halfOpen
  deriving DecidableEq, Repr

/-- `WINDOW`. -/
def window : Nat := 5

/-- `FAILURE_THRESHOLD`. -/
def failureThreshold : Nat := 3

/-- `COOLDOWN`: sixty seconds. -/
def cooldown : Int := 60000000

structure ProviderState where
  outcomes : List Bool := []
  openedAt : Option Int := none
  probing : Bool := false
  deriving DecidableEq, Repr

/-- `append` of a `deque(maxlen=WINDOW)`: the oldest entry makes room. -/
def appendOutcome (outcomes : List Bool) (outcome : Bool) : List Bool :=
  let appended := outcomes ++ [outcome]
  appended.drop (appended.length - window)

/-- `ProviderCircuitBreaker`: its `_states`. -/
structure ProviderCircuitBreaker where
  states : Provider → Option ProviderState

namespace ProviderCircuitBreaker

/-- A breaker that has seen no call. -/
def fresh : ProviderCircuitBreaker where
  states := fun _ => none

variable (b : ProviderCircuitBreaker) (p q : Provider) (now : Int)

/-- Write the entry of one provider. -/
def setEntry (entry : ProviderState) : ProviderCircuitBreaker where
  states := fun q => if q = p then some entry else b.states q

/-- `_states.setdefault(provider, _ProviderState())`. -/
def entry : ProviderState := (b.states p).getD {}

/-- `_states[provider].probing`, false where there is no entry. -/
def probing : Bool := (b.entry p).probing

def state : BreakerState :=
  match b.states p with
  | none => .closed
  | some entry =>
      match entry.openedAt with
      | none => .closed
      | some openedAt => if cooldown ≤ now - openedAt then .halfOpen else .opened

/-- `allow`: the answer, and the breaker afterwards. -/
def allow : Bool × ProviderCircuitBreaker :=
  match b.state p now with
  | .closed => (true, b)
  | .opened => (false, b)
  | .halfOpen =>
      if b.probing p then (false, b)
      else (true, b.setEntry p { b.entry p with probing := true })

def recordSuccess : ProviderCircuitBreaker :=
  let entry := b.entry p
  b.setEntry p { entry with
    outcomes := appendOutcome entry.outcomes true
    openedAt := none
    probing := false }

def recordFailure : ProviderCircuitBreaker :=
  let entry := b.entry p
  let outcomes := appendOutcome entry.outcomes false
  if entry.openedAt.isSome then
    -- a failed probe opens it again, for a fresh cooldown
    b.setEntry p { outcomes := outcomes, openedAt := some now, probing := false }
  else if failureThreshold ≤ outcomes.count false then
    b.setEntry p { outcomes := [], openedAt := some now, probing := false }
  else
    b.setEntry p { outcomes := outcomes, openedAt := none, probing := false }

@[simp] theorem probing_fresh : fresh.probing p = false := rfl

@[simp] theorem probing_setEntry (entry : ProviderState) :
    (b.setEntry p entry).probing q = if q = p then entry.probing else b.probing q := by
  by_cases hq : q = p
  · simp [probing, ProviderCircuitBreaker.entry, setEntry, hq]
  · simp [probing, ProviderCircuitBreaker.entry, setEntry, hq]

/-- The call is let through as a probe: the breaker is half open and no probe is
under way. -/
def AdmitsProbe : Prop := b.state p now = .halfOpen ∧ b.probing p = false

instance : Decidable (b.AdmitsProbe p now) := inferInstanceAs (Decidable (_ ∧ _))

theorem allow_of_closed (h : b.state p now = .closed) : b.allow p now = (true, b) := by
  simp only [allow, h]

theorem allow_of_opened (h : b.state p now = .opened) : b.allow p now = (false, b) := by
  simp only [allow, h]

theorem allow_of_halfOpen (h : b.state p now = .halfOpen) :
    b.allow p now = if b.probing p then (false, b)
      else (true, b.setEntry p { b.entry p with probing := true }) := by
  simp only [allow, h]

/-- A call is let through if the breaker is closed, or as a probe. -/
theorem allow_answer :
    (b.allow p now).1 = true ↔ b.state p now = .closed ∨ b.AdmitsProbe p now := by
  unfold AdmitsProbe
  cases hstate : b.state p now with
  | closed => simp [allow_of_closed b p now hstate]
  | opened => simp [allow_of_opened b p now hstate]
  | halfOpen => cases hprobing : b.probing p <;> simp [allow_of_halfOpen b p now hstate, hprobing]

theorem allow_breaker (h : ¬ b.AdmitsProbe p now) : (b.allow p now).2 = b := by
  cases hstate : b.state p now with
  | closed => rw [allow_of_closed b p now hstate]
  | opened => rw [allow_of_opened b p now hstate]
  | halfOpen =>
      have hprobing : b.probing p = true := by simpa [AdmitsProbe, hstate] using h
      rw [allow_of_halfOpen b p now hstate, if_pos hprobing]

/-- `allow` sets the flag of the provider for the call that it lets through as a
probe, and changes no other. -/
theorem probing_allow :
    (b.allow p now).2.probing q =
      if q = p ∧ b.AdmitsProbe p now then true else b.probing q := by
  by_cases hadmits : b.AdmitsProbe p now
  · by_cases hq : q = p
    · simp [allow_of_halfOpen b p now hadmits.1, hadmits.2, hadmits, hq]
    · simp [allow_of_halfOpen b p now hadmits.1, hadmits.2, hq]
  · simp [allow_breaker b p now hadmits, hadmits]

@[simp] theorem probing_recordSuccess :
    (b.recordSuccess p).probing q = if q = p then false else b.probing q := by
  simp [recordSuccess]

@[simp] theorem probing_recordFailure :
    (b.recordFailure p now).probing q = if q = p then false else b.probing q := by
  simp only [recordFailure]
  by_cases hopened : (b.entry p).openedAt.isSome = true
  · simp [hopened]
  · by_cases hcount : failureThreshold ≤
        (appendOutcome (b.entry p).outcomes false).count false
    · simp [hopened, hcount]
    · simp [hopened, hcount]

end ProviderCircuitBreaker

end ModelProviders

end Zentra
