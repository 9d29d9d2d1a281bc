import Zentra.ProviderBreaker
import Zentra.PythonText
import Zentra.StepTrace

/-!
# Calls routed over the providers

A call names the role of an Agent; the chain of the role in the client's tier says
which providers are tried, one after the other.  All clients share one breaker.
Every step of a call between two awaits is a step here of its own, so that the runs
of the event loop are among the executions below.

* `ProviderCalls.step` — the calls, the breaker, and what can happen next;
* `slots_of_step`, `probes_guarded` — while every probe reports what it came to, and
  no other call of a provider reports while one is under way, the flag of the provider
  is set exactly for the one probe in flight.
-/

open StepTrace PythonText

namespace Zentra

inductive AgentRole
  | intake
  | orchestrator
  | dataIntake
  | dataQuality
  | dataPreparation
  | semanticModeling
  | cubeAnalyst
  | sqlAnalyst
  | evaluator
  | statistician
  | insight
  | insightRootCause
  | demandPlanner
  | forecaster
  | visualization
  | executiveReportWriter
  | knowledge
  | conversational
  deriving DecidableEq, Repr

namespace ModelProviders

inductive ModelTier
  | free
  | premium
  deriving DecidableEq, Repr

def Provider.value : Provider → String
  | anthropic => "anthropic"
  | openai => "openai"
  | gemini => "gemini"
  | nvidia => "nvidia"
  | groq => "groq"
  | cerebras => "cerebras"
  | openrouter => "openrouter"

/-- `ModelChoice`: one rung of a chain. -/
structure ModelChoice where
  provider : Provider
  model : String
  maxTokens : Nat
  supportsTools : Bool := false
  deriving DecidableEq, Repr

/-- `ModelChoice.__str__`. -/
def ModelChoice.text (choice : ModelChoice) : String :=
  if '/' ∈ choice.model.toList then choice.provider.value ++ ":" ++ choice.model
  else choice.provider.value ++ "/" ++ choice.model

/-- `_FREE_MAX_TOKENS`. -/
def freeMaxTokens : Nat := 8000

/-- `_PAID_MAX_TOKENS`. -/
def paidMaxTokens : Nat := 16000

def geminiFlash : ModelChoice where
  provider := .gemini
  model := "gemini-3.6-flash"
  maxTokens := freeMaxTokens

def nvidiaNemotron : ModelChoice where
  provider := .nvidia
  model := "nvidia/nemotron-3-ultra-550b-a55b"
  maxTokens := paidMaxTokens
  supportsTools := true

def cerebrasGlm : ModelChoice where
  provider := .cerebras
  model := "zai-glm-4.7"
  maxTokens := freeMaxTokens

def groqOss : ModelChoice where
  provider := .groq
  model := "openai/gpt-oss-120b"
  maxTokens := freeMaxTokens
  supportsTools := true

def openrouterFree : ModelChoice where
  provider := .openrouter
  model := "openrouter/free"
  maxTokens := freeMaxTokens

def paid (provider : Provider) (model : String) : ModelChoice where
  provider := provider
  model := model
  maxTokens := paidMaxTokens
  supportsTools := true

def sonnet : ModelChoice := paid .anthropic "claude-sonnet-5"

def opus : ModelChoice := paid .anthropic "claude-opus-5"

def gpt : ModelChoice := paid .openai "gpt-5.5"

def haiku : ModelChoice := paid .anthropic "claude-haiku-4-5-20251001"

def freeChain : List ModelChoice :=
  [geminiFlash, nvidiaNemotron, groqOss, cerebrasGlm, openrouterFree, sonnet]

/-- `chain_for` over `ROUTING`; `none` is its `KeyError`. -/
def chainFor : ModelTier → AgentRole → Option (List ModelChoice)
  | .free, .intake => some freeChain
  | .free, .orchestrator => some freeChain
  | .free, .cubeAnalyst => some freeChain
  | .free, .evaluator =>
      some [nvidiaNemotron, groqOss, cerebrasGlm, geminiFlash, openrouterFree, opus]
  | .free, .insight => some freeChain
  | .free, .conversational => some freeChain
  | .premium, .intake => some [haiku, gpt, groqOss, cerebrasGlm]
  | .premium, .orchestrator => some [sonnet, gpt, groqOss, cerebrasGlm]
  | .premium, .cubeAnalyst => some [sonnet, gpt, groqOss, cerebrasGlm]
  | .premium, .evaluator => some [haiku, gpt, groqOss, cerebrasGlm]
  | .premium, .insight => some [haiku, gpt, groqOss, cerebrasGlm]
  | _, _ => none

/-- What a provider's client raises. -/
inductive Raised
  /-- `ProviderAuthError` -/
  | auth
  /-- any other `ProviderError` -/
  | provider (message : String)
  /-- any other exception, cancellation included -/
  | other
  deriving DecidableEq, Repr

/-- What `client.complete` comes to: a response, with or without tool calls, whose text
violates the declared schema or not, or an exception. -/
inductive Reply
  | response (toolCalls : Bool) (violation : Option String)
  | raised (error : Raised)
  deriving DecidableEq, Repr

/-- The next event of a provider's stream. -/
inductive FirstEvent
  | event
  | stopAsyncIteration
  | raised (error : Raised)
  deriving DecidableEq, Repr

/-- What a call makes of an attempt: `escapes` leaves the call without a record. -/
inductive Outcome
  | success
  | failure (message : String)
  | escapes
  deriving DecidableEq, Repr

/-- The `except` clauses around an attempt. -/
def Raised.outcome : Raised → Outcome
  | auth => .escapes
  | provider message => .failure message
  | other => .escapes

/-- One turn of the loop of `_attempt`: an outcome, or the violation that leads to the
next turn. -/
def Reply.turn (responseSchema : Bool) : Reply → Outcome ⊕ String
  | .raised error => .inl error.outcome
  | .response toolCalls violation =>
      if responseSchema = false ∨ toolCalls = true then .inl .success
      else
        match violation with
        | none => .inl .success
        | some message => .inr message

/-- `_attempt`: a response that violates the schema gets a second turn. -/
def attempt (responseSchema : Bool) (first second : Reply) : Outcome :=
  match first.turn responseSchema with
  | .inl outcome => outcome
  | .inr _ =>
      match second.turn responseSchema with
      | .inl outcome => outcome
      | .inr message => .failure message

/-- The attempt of `stream`: its first event. -/
def FirstEvent.outcome : FirstEvent → Outcome
  | event => .success
  | stopAsyncIteration => .failure "empty stream"
  | raised error => error.outcome

inductive Method
  | complete (responseSchema tools : Bool)
  | stream
  deriving DecidableEq, Repr

/-- Whether the call hands over tools. -/
def Method.tools : Method → Bool
  | complete _ tools => tools
  | stream => false

/-- What the provider answers to an attempt. -/
inductive Answer
  | completed (first second : Reply)
  | streamed (first : FirstEvent)
  deriving DecidableEq, Repr

/-- What the answer comes to for a method; `none` for an answer to the other one. -/
def Answer.outcome : Answer → Method → Option Outcome
  | .completed first second, .complete responseSchema _ =>
      some (attempt responseSchema first second)
  | .streamed first, .stream => some first.outcome
  | _, _ => none

/-- `RoutedModelClient`: its tier, and the providers it has a client for. -/
structure RoutedModelClient where
  tier : ModelTier
  clients : List Provider
  deriving DecidableEq, Repr

/-- Where a call stands.  `attempts` is its list of that name; `probe` says whether the
attempt was let through as a half-open probe, which the code does not keep. -/
inductive Stage
  | choosing (rest : List ModelChoice) (attempts : List String)
  | attempting (choice : ModelChoice) (probe : Bool) (rest : List ModelChoice)
      (attempts : List String)
  /-- the first event has been passed on; the rest of the stream is read -/
  | streaming (fallbacks : List String)
  | returned (fallbacks : List String)
  /-- `ChainExhaustedError` -/
  | exhausted (attempts : List String)
  | raised
  deriving DecidableEq, Repr

structure Call where
  client : RoutedModelClient
  method : Method
  stage : Stage
  deriving DecidableEq, Repr

/-- Why a rung is skipped before the breaker is asked. -/
def Call.skips (call : Call) (choice : ModelChoice) : Option String :=
  if choice.provider ∉ call.client.clients then
    some (choice.text ++ ": no API key configured")
  else if call.method.tools ∧ ¬ choice.supportsTools then
    some (choice.text ++ ": no tool support")
  else none

/-- The attempt in flight is a probe of the provider. -/
def Call.probes (p : Provider) (call : Call) : Bool :=
  match call.stage with
  | .attempting choice probe _ _ => probe && choice.provider = p
  | _ => false

/-- All calls so far, and the breaker that they share. -/
structure ProviderCalls where
  breaker : ProviderCircuitBreaker
  calls : List Call

/-- What happens next: a call is made, call `i` goes on to the next rung of its chain,
its attempt ends, or its stream does. -/
inductive Action
  | start (client : RoutedModelClient) (role : AgentRole) (method : Method)
  | next (i : Nat) (now : Int)
  | finish (i : Nat) (answer : Answer) (now : Int)
  | finishStream (i : Nat)
  deriving DecidableEq, Repr

namespace ProviderCalls

def initial : ProviderCalls where
  breaker := .fresh
  calls := []

/-- Write the breaker and the stage of one call. -/
def setStage (s : ProviderCalls) (i : Nat) (call : Call) (breaker : ProviderCircuitBreaker)
    (stage : Stage) : ProviderCalls where
  breaker := breaker
  calls := s.calls.set i { call with stage := stage }

/-- One rung of the loop over the chain, up to the attempt. -/
def tryNext (s : ProviderCalls) (i : Nat) (call : Call) (rest : List ModelChoice)
    (attempts : List String) (now : Int) : ProviderCalls :=
  match rest with
  | [] => s.setStage i call s.breaker (.exhausted attempts)
  | choice :: rest =>
      match call.skips choice with
      | some reason => s.setStage i call s.breaker (.choosing rest (attempts ++ [reason]))
      | none =>
          let probe := decide (s.breaker.AdmitsProbe choice.provider now)
          let allowed := s.breaker.allow choice.provider now
          if allowed.1 then
            s.setStage i call allowed.2 (.attempting choice probe rest attempts)
          else
            s.setStage i call allowed.2
              (.choosing rest (attempts ++ [choice.text ++ ": circuit open"]))

def settle (s : ProviderCalls) (i : Nat) (call : Call) (choice : ModelChoice)
    (rest : List ModelChoice) (attempts : List String) (outcome : Outcome) (now : Int) :
    ProviderCalls :=
  match outcome with
  | .success =>
      s.setStage i call (s.breaker.recordSuccess choice.provider)
        (if call.method = .stream then .streaming attempts else .returned attempts)
  | .failure message =>
      s.setStage i call (s.breaker.recordFailure choice.provider now)
        (.choosing rest (attempts ++ [choice.text ++ ": " ++ message]))
  | .escapes => s.setStage i call s.breaker .raised

/-- One step; `none` if it cannot happen. -/
def step (s : ProviderCalls) : Action → Option ProviderCalls
  | .start client role method =>
      match chainFor client.tier role with
      | none => some { s with calls := s.calls ++ [⟨client, method, .raised⟩] }
      | some chain => some { s with calls := s.calls ++ [⟨client, method, .choosing chain []⟩] }
  | .next i now =>
      match s.calls[i]? with
      | none => none
      | some call =>
          match call.stage with
          | .choosing rest attempts => some (s.tryNext i call rest attempts now)
          | _ => none
  | .finish i answer now =>
      match s.calls[i]? with
      | none => none
      | some call =>
          match call.stage, answer.outcome call.method with
          | .attempting choice _ rest attempts, some outcome =>
              some (s.settle i call choice rest attempts outcome now)
          | _, _ => none
  | .finishStream i =>
      match s.calls[i]? with
      | none => none
      | some call =>
          match call.stage with
          | .streaming fallbacks => some (s.setStage i call s.breaker (.returned fallbacks))
          | _ => none

def probesInFlight (s : ProviderCalls) (p : Provider) : Nat := s.calls.countP (Call.probes p)

/-- A flag is set only while a probe of the provider is in flight, and at most one of
them is. -/
def ProbeGuarded (s : ProviderCalls) : Prop :=
  ∀ p, (s.breaker.probing p = true → 0 < s.probesInFlight p) ∧ s.probesInFlight p ≤ 1

/-- A call of the provider may report now: the probe always, another call while no probe
is in flight.  A probe has to. -/
def InOrder (s : ProviderCalls) (choice : ModelChoice) (probe : Bool) (outcome : Outcome) :
    Prop :=
  if probe = true then outcome ≠ .escapes
  else outcome = .escapes ∨ s.probesInFlight choice.provider = 0

instance (s : ProviderCalls) (choice : ModelChoice) (probe : Bool) (outcome : Outcome) :
    Decidable (s.InOrder choice probe outcome) := by
  unfold InOrder
  infer_instance

def StepInOrder (s : ProviderCalls) : Action → Prop
  | .finish i answer _ =>
      match s.calls[i]? with
      | none => True
      | some call =>
          match call.stage, answer.outcome call.method with
          | .attempting choice probe _ _, some outcome => s.InOrder choice probe outcome
          | _, _ => True
  | _ => True

instance (s : ProviderCalls) (a : Action) : Decidable (s.StepInOrder a) := by
  unfold StepInOrder
  split
  · split
    · infer_instance
    · split <;> infer_instance
  · infer_instance

/-- The flag of every provider is set for the one probe in flight, and else it is not. -/
def Slots (s : ProviderCalls) : Prop :=
  ∀ p, s.probesInFlight p = (s.breaker.probing p).toNat

variable {s t : ProviderCalls} {i : Nat} {call : Call} {p : Provider}

theorem slots_initial : initial.Slots := fun _ => rfl

theorem Slots.probeGuarded (h : s.Slots) : s.ProbeGuarded := by
  intro p
  rw [h p]
  cases s.breaker.probing p <;> simp

theorem probesInFlight_setStage (hcall : s.calls[i]? = some call)
    (b : ProviderCircuitBreaker) (stage : Stage) :
    (s.setStage i call b stage).probesInFlight p + (call.probes p).toNat =
      s.probesInFlight p + (Call.probes p { call with stage := stage }).toNat := by
  obtain ⟨hi, hget⟩ := List.getElem?_eq_some_iff.1 hcall
  have hcount : call.probes p = true → 0 < s.probesInFlight p := fun hprobes =>
    List.countP_pos_iff.2 ⟨call, List.mem_of_getElem? hcall, hprobes⟩
  have hset := List.countP_set (p := Call.probes p) (a := { call with stage := stage }) hi
  rw [hget] at hset
  unfold probesInFlight setStage at *
  rw [hset]
  cases hbefore : call.probes p with
  | true =>
      have hpos := hcount hbefore
      cases Call.probes p { call with stage := stage } <;> simp <;> omega
  | false => cases Call.probes p { call with stage := stage } <;> simp

theorem probes_attempting {choice : ModelChoice} {probe : Bool} {rest : List ModelChoice}
    {attempts : List String} (h : call.stage = .attempting choice probe rest attempts) :
    call.probes p = (probe && decide (choice.provider = p)) := by
  simp only [Call.probes, h]

/-- A step of a call that neither was nor becomes a probe, and leaves the breaker. -/
theorem Slots.setStage (h : s.Slots) (hcall : s.calls[i]? = some call) {stage : Stage}
    (hbefore : ∀ p, call.probes p = false)
    (hafter : ∀ p, Call.probes p { call with stage := stage } = false) :
    (s.setStage i call s.breaker stage).Slots := by
  intro p
  have hcount := probesInFlight_setStage (p := p) hcall s.breaker stage
  rw [hbefore, hafter, h p] at hcount
  exact hcount

theorem Slots.setStage_admitted (h : s.Slots) (hcall : s.calls[i]? = some call)
    (hbefore : ∀ p, call.probes p = false) {choice : ModelChoice} {now : Int}
    (hadmits : s.breaker.AdmitsProbe choice.provider now) (rest : List ModelChoice)
    (attempts : List String) :
    (s.setStage i call (s.breaker.allow choice.provider now).2
      (.attempting choice true rest attempts)).Slots := by
  intro p
  have hcount := probesInFlight_setStage (p := p) hcall
    (s.breaker.allow choice.provider now).2 (.attempting choice true rest attempts)
  have hflag := s.breaker.probing_allow choice.provider p now
  rw [hbefore, probes_attempting rfl, h p] at hcount
  change _ = ((s.breaker.allow choice.provider now).2.probing p).toNat
  rw [hflag]
  by_cases hp : p = choice.provider
  · subst hp
    simpa [hadmits, hadmits.2] using hcount
  · have hother : choice.provider ≠ p := fun heq => hp heq.symm
    simpa [hp, hother] using hcount

theorem Slots.setStage_recorded (h : s.Slots) (hcall : s.calls[i]? = some call)
    {choice : ModelChoice} {probe : Bool} {rest : List ModelChoice} {attempts : List String}
    (hstage : call.stage = .attempting choice probe rest attempts)
    (horder : probe = true ∨ s.probesInFlight choice.provider = 0)
    {b : ProviderCircuitBreaker} {stage : Stage}
    (hflags : ∀ q, b.probing q = if q = choice.provider then false else s.breaker.probing q)
    (hafter : ∀ p, Call.probes p { call with stage := stage } = false) :
    (s.setStage i call b stage).Slots := by
  intro p
  have hcount := probesInFlight_setStage (p := p) hcall b stage
  rw [probes_attempting hstage, hafter] at hcount
  have hslots := h p
  change _ = (b.probing p).toNat
  rw [hflags]
  by_cases hp : p = choice.provider
  · subst hp
    obtain rfl | hnone := horder
    · cases hflag : s.breaker.probing choice.provider with
      | true => simpa [hslots, hflag] using hcount
      | false => simp [hslots, hflag] at hcount
    · simp only [hnone, Bool.toNat_false, Nat.zero_add] at hcount
      simp only [if_true, Bool.toNat_false]
      omega
  · have hother : choice.provider ≠ p := fun heq => hp heq.symm
    simpa [hp, hother, hslots] using hcount

theorem Slots.tryNext (h : s.Slots) (hcall : s.calls[i]? = some call)
    {rest : List ModelChoice} {attempts : List String}
    (hstage : call.stage = .choosing rest attempts) (now : Int) :
    (s.tryNext i call rest attempts now).Slots := by
  have hbefore : ∀ p, call.probes p = false := fun p => by simp only [Call.probes, hstage]
  cases rest with
  | nil => exact h.setStage hcall hbefore fun _ => rfl
  | cons choice rest =>
      cases hskips : call.skips choice with
      | some reason =>
          simp only [ProviderCalls.tryNext, hskips]
          exact h.setStage hcall hbefore fun _ => rfl
      | none =>
          simp only [ProviderCalls.tryNext, hskips]
          by_cases hadmits : s.breaker.AdmitsProbe choice.provider now
          · have hanswer : (s.breaker.allow choice.provider now).1 = true :=
              (s.breaker.allow_answer choice.provider now).2 (.inr hadmits)
            simp only [hanswer, if_true, hadmits, decide_true]
            exact h.setStage_admitted hcall hbefore hadmits rest attempts
          · simp only [s.breaker.allow_breaker choice.provider now hadmits, hadmits,
              decide_false]
            split
            · exact h.setStage hcall hbefore fun _ => rfl
            · exact h.setStage hcall hbefore fun _ => rfl

theorem Slots.settle (h : s.Slots) (hcall : s.calls[i]? = some call)
    {choice : ModelChoice} {probe : Bool} {rest : List ModelChoice} {attempts : List String}
    (hstage : call.stage = .attempting choice probe rest attempts) {outcome : Outcome}
    (horder : s.InOrder choice probe outcome) (now : Int) :
    (s.settle i call choice rest attempts outcome now).Slots := by
  have hslot : outcome ≠ .escapes → probe = true ∨ s.probesInFlight choice.provider = 0 := by
    intro hrecorded
    cases probe with
    | true => exact .inl rfl
    | false => exact .inr (horder.resolve_left hrecorded)
  cases outcome with
  | success =>
      refine h.setStage_recorded hcall hstage (hslot (by simp))
        (fun q => s.breaker.probing_recordSuccess choice.provider q) fun p => ?_
      split <;> rfl
  | failure message =>
      exact h.setStage_recorded hcall hstage (hslot (by simp))
        (fun q => s.breaker.probing_recordFailure choice.provider q now) fun _ => rfl
  | escapes =>
      cases probe with
      | true => exact absurd rfl horder
      | false =>
          refine h.setStage hcall (fun p => ?_) fun _ => rfl
          rw [probes_attempting hstage, Bool.false_and]

theorem Slots.addCall (h : s.Slots) (hnew : ∀ p, call.probes p = false) :
    ProviderCalls.Slots { s with calls := s.calls ++ [call] } := by
  intro p
  have hslots := h p
  simp only [probesInFlight] at hslots ⊢
  simp [hslots, hnew]

/-- **Step lemma.**  A step in order keeps the slots. -/
theorem slots_of_step (a : Action) (h : s.Slots) (horder : s.StepInOrder a)
    (hstep : s.step a = some t) : t.Slots := by
  cases a with
  | start client role method =>
      cases hchain : chainFor client.tier role with
      | none =>
          simp only [step, hchain] at hstep
          cases hstep
          exact h.addCall fun _ => rfl
      | some chain =>
          simp only [step, hchain] at hstep
          cases hstep
          exact h.addCall fun _ => rfl
  | next i now =>
      simp only [step] at hstep
      split at hstep
      · cases hstep
      · next call hcall =>
          split at hstep
          · next rest attempts hstage =>
              cases hstep
              exact h.tryNext hcall hstage now
          · cases hstep
  | finish i answer now =>
      simp only [step] at hstep
      split at hstep
      · cases hstep
      · next call hcall =>
          split at hstep
          · next choice probe rest attempts outcome hstage houtcome =>
              cases hstep
              simp only [StepInOrder, hcall, hstage, houtcome] at horder
              exact h.settle hcall hstage horder now
          · cases hstep
  | finishStream i =>
      simp only [step] at hstep
      split at hstep
      · cases hstep
      · next call hcall =>
          split at hstep
          · next fallbacks hstage =>
              cases hstep
              exact h.setStage hcall (fun p => by simp only [Call.probes, hstage]) fun _ => rfl
          · cases hstep

/-- **Every execution in order.**  In every interleaving of calls in which each attempt
ends in order, in every state a flag is set only for a probe in flight, and at most one
probe of a provider is. -/
theorem probes_guarded (actions : List Action)
    (hallowed : Allowed step StepInOrder initial actions) :
    Always step ProbeGuarded initial actions :=
  always_of_allowed Slots (fun _ hslots => hslots.probeGuarded)
    (fun _ a _ hslots horder hstep => slots_of_step a hslots horder hstep)
    actions initial slots_initial hallowed

/-- A client of the free tier with a Gemini key only. -/
def geminiOnly : RoutedModelClient where
  tier := .free
  clients := [.gemini]

def rateLimited : Answer := .completed (.raised (.provider "429")) (.response false none)

/-- A call of the Intake Agent, without tools and without a schema. -/
def ask : Action := .start geminiOnly .intake (.complete false false)

/-- Three calls that fail, of which the last one opens the breaker. -/
def outage : List Action :=
  [ask, ask, ask, .next 0 0, .finish 0 rateLimited 0, .next 1 0, .finish 1 rateLimited 0,
    .next 2 0, .finish 2 rateLimited 0]

/-- After an outage a probe is let through, which succeeds. -/
def recovery : List Action :=
  outage ++ [ask, .next 3 cooldown,
    .finish 3 (.completed (.response false none) (.response false none)) cooldown]

/-- After an outage a probe is let through, which is refused for its key. -/
def refusedProbe : List Action :=
  outage ++ [ask, .next 3 cooldown,
    .finish 3 (.completed (.raised .auth) (.response false none)) cooldown]

/-- A call that was let through before the outage fails while the probe is under way, and
later a second probe is let through beside the first. -/
def lateFailure : List Action :=
  [ask, .next 0 0] ++
    [ask, ask, ask, .next 1 0, .finish 1 rateLimited 0, .next 2 0, .finish 2 rateLimited 0,
      .next 3 0, .finish 3 rateLimited 0] ++
    [ask, .next 4 cooldown, .finish 0 rateLimited cooldown, ask, .next 5 (2 * cooldown)]

theorem recovery_guarded : Always step ProbeGuarded initial recovery :=
  probes_guarded recovery (by decide)

/-- The flag stays set with no probe in flight, or two probes are in flight. -/
theorem not_always_guarded :
    (¬ ∀ actions, Always step ProbeGuarded initial actions) ∧
    (∃ t, run step initial refusedProbe = some t ∧ t.breaker.probing .gemini = true ∧
      t.probesInFlight .gemini = 0) ∧
    ∃ t, run step initial lateFailure = some t ∧ t.probesInFlight .gemini = 2 := by
  have hrefused : ∃ t, run step initial refusedProbe = some t ∧
      t.breaker.probing .gemini = true ∧ t.probesInFlight .gemini = 0 :=
    ⟨_, rfl, by decide, by decide⟩
  refine ⟨fun halways => ?_, hrefused, ⟨_, rfl, by decide⟩⟩
  obtain ⟨t, hrun, hflag, hnone⟩ := hrefused
  have hguarded := (halways refusedProbe).last (exec_of_run hrun) .gemini
  exact Nat.ne_of_gt (hguarded.1 hflag) hnone

end ProviderCalls

end ModelProviders

end Zentra
