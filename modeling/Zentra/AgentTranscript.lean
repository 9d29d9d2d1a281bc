import Zentra.AgentRuntime

/-!
# The transcript of an agent

Whatever the model answers, what it is sent is a conversation in which every tool call has its
result, and what is reported is what the calls have used.

* `turn_settled`, `loop_settled` — a step and a run;
* `run_keeps_transcript` — the transcripts, the number of calls, the usage and the output.
-/

open JsonDocument Raising Raising.Method

namespace Zentra

namespace AgentExecution

/-- A conversation in which every turn with tool calls is one of the assistant, followed by the
turn of the user that has a result for each of them. -/
inductive Turns : List ModelMessage → Prop
  | nil : Turns []
  | plain {message : ModelMessage} {rest : List ModelMessage} :
      message.toolCalls = [] → message.toolResults = [] → Turns rest → Turns (message :: rest)
  | tools {asked answer : ModelMessage} {rest : List ModelMessage} :
      asked.role = .assistant → asked.toolCalls ≠ [] → asked.toolResults = [] →
      answer.role = .user → answer.toolCalls = [] →
      answer.toolResults.map (·.callId) = asked.toolCalls.map (·.callId) →
      Turns rest → Turns (asked :: answer :: rest)

theorem Turns.append {first second : List ModelMessage} (hfirst : Turns first)
    (hsecond : Turns second) : Turns (first ++ second) := by
  induction hfirst with
  | nil => exact hsecond
  | plain hcalls hresults _ ih => exact .plain hcalls hresults ih
  | tools hasked hcalls hresults hanswer hnone hids _ ih =>
      exact .tools hasked hcalls hresults hanswer hnone hids ih

/-- The transcript goes on from the messages of the caller, with its tool calls answered. -/
def Continues (messages transcript : List ModelMessage) : Prop :=
  ∃ added, transcript = messages ++ added ∧ Turns added

theorem Continues.append {messages transcript added : List ModelMessage}
    (h : Continues messages transcript) (hadded : Turns added) :
    Continues messages (transcript ++ added) := by
  obtain ⟨before, rfl, hbefore⟩ := h
  exact ⟨before ++ added, List.append_assoc _ _ _, hbefore.append hadded⟩

section Calls

variable {World Cost : Type} {runtime : AgentRuntime World Cost} {input : RunInput World}

def Conversing.dialogue (s : Conversing World Cost) :
    List ModelMessage × ExecutionUsage Cost × List (Exchange Cost) :=
  (s.conversation, s.usage, s.exchanges)

theorem dialogue_eq_iff {s t : Conversing World Cost} :
    s.dialogue = t.dialogue ↔
      s.conversation = t.conversation ∧ s.usage = t.usage ∧ s.exchanges = t.exchanges := by
  unfold Conversing.dialogue
  rw [Prod.mk.injEq, Prod.mk.injEq]

theorem keeps_inWorld {ε α : Type} {wrap : ε → RunError} {m : Method World ε α} :
    Keeps (@Conversing.dialogue World Cost) (inWorld wrap m) :=
  keeps_zoom fun _ _ => rfl

theorem keeps_clock : Keeps Conversing.dialogue runtime.clock := fun _ => rfl

theorem keeps_invoke (call : ToolCall) :
    Keeps Conversing.dialogue (runtime.invoke input call) :=
  keeps_clock.bind fun _ => keeps_inWorld.bind fun _ => keeps_clock.bind fun _ => keeps_pure

theorem keeps_invokeAll (toolCalls : List ToolCall) :
    Keeps Conversing.dialogue (runtime.invokeAll input toolCalls) := by
  induction toolCalls with
  | nil => exact keeps_pure
  | cons call toolCalls ih =>
      exact (keeps_invoke call).bind fun _ =>
        keeps_assign_bind (fun _ => rfl) (ih.bind fun _ => keeps_pure)

/-- Whatever comes of a tool, its result has the id of the call. -/
theorem callId_of_answering {callId : String} {m : Method World ToolError ToolResult}
    {s t : Conversing World Cost} {result : ToolResult}
    (h : (inWorld id (answering callId m)).call s = (.ok result, t)) :
    result.callId = callId := by
  obtain ⟨world, hcall, -⟩ := zoom_returns.1 h
  rcases catching_returns.1 hcall with hreturned | ⟨error, u, -, hhandled⟩
  · obtain ⟨returned, v, -, hreturned⟩ := bind_returns.1 hreturned
    cases hreturned
    rfl
  · cases error with
    | unauthorized message =>
        cases hhandled
        rfl
    | value typeName message =>
        cases hhandled
        rfl
    | other text => cases hhandled

/-- **A tool call** is answered under its own id. -/
theorem callId_of_invoke {call : ToolCall} {s t : Conversing World Cost}
    {answer : ToolResult × ToolInvocation}
    (h : (runtime.invoke input call).call s = (.ok answer, t)) : answer.1.callId = call.callId := by
  obtain ⟨started, afterStart, -, h⟩ := bind_returns.1 h
  obtain ⟨result, afterCall, hresult, h⟩ := bind_returns.1 h
  obtain ⟨finished, afterFinish, -, h⟩ := bind_returns.1 h
  cases h
  exact callId_of_answering hresult

/-- **The tool calls of a turn** have their results, in order and by their ids. -/
theorem callIds_of_invokeAll {toolCalls : List ToolCall} {s t : Conversing World Cost}
    {results : List ToolResult}
    (h : (runtime.invokeAll input toolCalls).call s = (.ok results, t)) :
    results.map (·.callId) = toolCalls.map (·.callId) := by
  induction toolCalls generalizing s results with
  | nil =>
      cases h
      rfl
  | cons call toolCalls ih =>
      obtain ⟨answer, afterCall, hanswer, h⟩ := bind_returns.1 h
      obtain ⟨_, afterNote, hnote, h⟩ := bind_returns.1 h
      obtain ⟨others, afterAll, hothers, h⟩ := bind_returns.1 h
      cases h
      rw [List.map_cons, List.map_cons, callId_of_invoke hanswer, ih hothers]

theorem call_complete (request : ModelRequest) (s : Conversing World Cost) :
    (runtime.complete request).call s =
      match (runtime.model request).call s.world with
      | (.ok response, world) =>
          (.ok response, { s with world, exchanges := s.exchanges ++ [⟨request, .ok response⟩] })
      | (.error e, world) =>
          (.error (.model e), { s with world, exchanges := s.exchanges ++ [⟨request, .error e⟩] }) :=
  rfl

/-- The error is not that the steps are used up. -/
def RunError.Early (error : RunError) : Prop := ∀ message, error ≠ .stepBudgetExhausted message

theorem early_ask [Zero Cost] [Add Cost] (responseSchema : Option Object)
    (tools : List ToolDefinition) :
    RaisesOnly RunError.Early (runtime.ask input responseSchema tools) := by
  refine raisesOnly_self_bind fun s => RaisesOnly.bind ?_ fun _ =>
    raisesOnly_assign.bind fun _ => raisesOnly_pure
  intro t error u hraise message hmessage
  rw [call_complete] at hraise
  rcases hanswer : (runtime.model _).call t.world with ⟨e | response, world⟩
  · rw [hanswer] at hraise
    cases hraise
    cases hmessage
  · rw [hanswer] at hraise
    cases hraise

theorem early_invoke (call : ToolCall) :
    RaisesOnly RunError.Early (runtime.invoke input call) := by
  have hclock : RaisesOnly RunError.Early runtime.clock :=
    Total.raisesOnly fun s => ⟨_, _, rfl⟩
  have hanswering : RaisesOnly RunError.Early
      (answering call.callId (runtime.callTool input call)) := by
    refine raisesOnly_catching fun failure => raisesOnly_eval ?_
    intro error hfailure message hmessage
    subst hmessage
    cases failure with
    | unauthorized message => cases hfailure
    | value typeName message => cases hfailure
    | other text => cases hfailure
  exact hclock.bind fun _ => (raisesOnly_zoom hanswering).bind fun _ => hclock.bind fun _ =>
    raisesOnly_pure

theorem early_invokeAll (toolCalls : List ToolCall) :
    RaisesOnly RunError.Early (runtime.invokeAll input toolCalls) := by
  induction toolCalls with
  | nil => exact raisesOnly_pure
  | cons call toolCalls ih =>
      exact (early_invoke call).bind fun _ => raisesOnly_assign.bind fun _ =>
        ih.bind fun _ => raisesOnly_pure

theorem early_refusalOf (output : Object) :
    RaisesOnly RunError.Early (@refusalOf World Cost input output) := by
  unfold refusalOf
  split
  · exact raisesOnly_pure
  · refine raisesOnly_zoom ?_
    intro s e t _ message hmessage
    cases hmessage

theorem early_parseJsonObject (text : String) :
    ∀ error, runtime.parseJsonObject text = .error error → error.Early := by
  intro error herror message hmessage
  subst hmessage
  unfold AgentRuntime.parseJsonObject at herror
  split at herror
  · cases herror
  · cases herror
  · cases herror

/-- **A step** does not raise that the steps are used up. -/
theorem early_turn [Zero Cost] [Add Cost] (step : Nat) :
    RaisesOnly RunError.Early (runtime.turn input step) := by
  refine (early_ask _ _).bind fun response => ?_
  by_cases hcalls : response.toolCalls ≠ []
  · rw [if_pos hcalls]
    exact raisesOnly_assign.bind fun _ => (early_invokeAll _).bind fun _ =>
      raisesOnly_assign.bind fun _ => raisesOnly_pure
  · rw [if_neg hcalls]
    have hclosing : RaisesOnly RunError.Early (runtime.closing input response) := by
      unfold AgentRuntime.closing
      split
      · exact raisesOnly_pure
      · exact raisesOnly_assign.bind fun _ => raisesOnly_assign.bind fun _ => early_ask _ _
    refine hclosing.bind fun closed => (raisesOnly_eval (early_parseJsonObject _)).bind
      fun output => (early_refusalOf output).bind fun refusal => ?_
    cases refusal with
    | none => exact raisesOnly_self_bind fun _ => raisesOnly_pure
    | some refusal =>
        exact raisesOnly_assign.bind fun _ => raisesOnly_assign.bind fun _ => raisesOnly_pure

/-- However a run ends: every transcript that was sent is in order, and there were no more
calls than so many. -/
structure Kept (messages : List ModelMessage) (calls : Nat) (s : Conversing World Cost) :
    Prop where
  sent : ∀ exchange ∈ s.exchanges, Continues messages exchange.request.messages
  calls : s.exchanges.length ≤ calls

theorem Kept.of_exchanges {messages : List ModelMessage} {calls : Nat}
    {s t : Conversing World Cost} (h : Kept messages calls s)
    (hexchanges : t.exchanges = s.exchanges) : Kept messages calls t where
  sent := by
    rw [hexchanges]
    exact h.sent
  calls := by
    rw [hexchanges]
    exact h.calls

theorem Kept.mono {messages : List ModelMessage} {calls more : Nat} {s : Conversing World Cost}
    (h : Kept messages calls s) (hmore : calls ≤ more) : Kept messages more s :=
  { h with calls := h.calls.trans hmore }

end Calls

section Usage

variable {Cost : Type} [Zero Cost] [Add Cost]

/-- The responses among the answers. -/
def responsesOf (exchanges : List (Exchange Cost)) : List (ModelResponse Cost) :=
  exchanges.filterMap fun exchange => exchange.answer.toOption

structure SumOf (responses : List (ModelResponse Cost)) (usage : ExecutionUsage Cost) : Prop where
  inputTokens : usage.inputTokens = (responses.map (·.usage.inputTokens)).sum
  outputTokens : usage.outputTokens = (responses.map (·.usage.outputTokens)).sum
  costUsd : usage.costUsd = (responses.map (·.usage.costUsd)).foldl (· + ·) 0

theorem SumOf.accumulate {responses : List (ModelResponse Cost)} {usage : ExecutionUsage Cost}
    (h : SumOf responses usage) (response : ModelResponse Cost) :
    SumOf (responses ++ [response]) (accumulate usage response) where
  inputTokens := by
    rw [List.map_append, List.sum_append, ← h.inputTokens]
    rfl
  outputTokens := by
    rw [List.map_append, List.sum_append, ← h.outputTokens]
    rfl
  costUsd := by
    rw [List.map_append, List.foldl_append, ← h.costUsd]
    rfl

end Usage

section Run

variable {World Cost : Type} [Zero Cost] [Add Cost]

/-- Between the turns of a run: the transcript is in order, every call was answered, and all of
them are accounted for. -/
structure Settled (messages : List ModelMessage) (calls : Nat) (s : Conversing World Cost) :
    Prop extends Kept messages calls s where
  transcript : Continues messages s.conversation
  answered : (responsesOf s.exchanges).length = s.exchanges.length
  usage : SumOf (responsesOf s.exchanges) s.usage

theorem Settled.mono {messages : List ModelMessage} {calls more : Nat}
    {s : Conversing World Cost} (h : Settled messages calls s) (hmore : calls ≤ more) :
    Settled messages more s :=
  { h with calls := h.calls.trans hmore }

theorem Settled.say {messages added : List ModelMessage} {calls : Nat}
    {s t : Conversing World Cost} (h : Settled messages calls s) (hadded : Turns added)
    (hconversation : t.conversation = s.conversation ++ added)
    (hexchanges : t.exchanges = s.exchanges) (husage : t.usage = s.usage) :
    Settled messages calls t where
  toKept := h.toKept.of_exchanges hexchanges
  transcript := by
    rw [hconversation]
    exact h.transcript.append hadded
  answered := by
    rw [hexchanges]
    exact h.answered
  usage := by
    rw [hexchanges, husage]
    exact h.usage

variable {runtime : AgentRuntime World Cost} {input : RunInput World}
  {messages : List ModelMessage} {calls : Nat}

/-- **A call of the model** is made on a transcript that is in order. -/
theorem ask_settled (responseSchema : Option Object) (tools : List ToolDefinition) :
    Triple (Settled messages calls) (runtime.ask input responseSchema tools)
      (fun _ => Settled messages (calls + 1)) fun _ => Kept messages (calls + 1) := by
  intro s hs
  unfold AgentRuntime.ask
  rw [call_self_bind, call_bind]
  generalize hrequest : ({
    model := input.descriptor.role.value
    system := runtime.prompt input
    messages := s.conversation
    maxTokens := input.descriptor.contextBudgetTokens
    responseSchema := responseSchema
    tools := tools } : ModelRequest) = request
  have hsent : ∀ (answer : Except String (ModelResponse Cost)),
      ∀ exchange ∈ s.exchanges ++ [⟨request, answer⟩],
        Continues messages exchange.request.messages := by
    intro answer exchange hexchange
    rcases List.mem_append.1 hexchange with hold | hnew
    · exact hs.sent exchange hold
    · rw [List.mem_singleton.1 hnew, ← hrequest]
      exact hs.transcript
  have hcalls : ∀ (answer : Except String (ModelResponse Cost)),
      (s.exchanges ++ [(⟨request, answer⟩ : Exchange Cost)]).length ≤ calls + 1 := by
    intro answer
    rw [List.length_append, List.length_singleton]
    exact Nat.add_le_add_right hs.calls 1
  rw [call_complete]
  rcases (runtime.model request).call s.world with ⟨e | response, world⟩
  · exact ⟨hsent _, hcalls _⟩
  · have hresponses : responsesOf (s.exchanges ++ [(⟨request, .ok response⟩ : Exchange Cost)]) =
        responsesOf s.exchanges ++ [response] := by
      unfold responsesOf
      rw [List.filterMap_append]
      rfl
    refine ⟨⟨hsent _, hcalls _⟩, hs.transcript, ?_, ?_⟩
    · show (responsesOf (s.exchanges ++ [(⟨request, .ok response⟩ : Exchange Cost)])).length =
        (s.exchanges ++ [(⟨request, .ok response⟩ : Exchange Cost)]).length
      rw [hresponses, List.length_append, List.length_append, hs.answered]
      rfl
    · show SumOf (responsesOf (s.exchanges ++ [(⟨request, .ok response⟩ : Exchange Cost)]))
        (accumulate s.usage response)
      rw [hresponses]
      exact hs.usage.accumulate response

theorem turns_pair {first second : ModelMessage} (hcalls : first.toolCalls = [])
    (hresults : first.toolResults = []) (hcalls' : second.toolCalls = [])
    (hresults' : second.toolResults = []) : Turns [first, second] :=
  .plain hcalls hresults (.plain hcalls' hresults' .nil)

/-- The calls that one step makes at most: one, or two if the answer has to be asked for. -/
def callsAStep (runtime : AgentRuntime World Cost) (input : RunInput World) : Nat :=
  if runtime.offered input = [] then 1 else 2

/-- What is reported of a run that returns: what all its calls have used, and an output that the
validator took last. -/
structure Reported (input : RunInput World) (result : RuntimeResult Cost)
    (s : Conversing World Cost) : Prop where
  answered : (responsesOf s.exchanges).length = s.exchanges.length
  usage : SumOf (responsesOf s.exchanges) result.usage
  accepted : ∀ accept, input.accept = some accept →
    ∃ world, (accept result.output).call world = (.ok none, s.world)

/-- **The tool calls of a response** are answered by the next turn. -/
theorem toolTurn_settled {response : ModelResponse Cost} (hcalls : response.toolCalls ≠ []) :
    Triple (Settled messages calls)
      (do
        assign (·.say
          { role := .assistant, content := response.text, toolCalls := response.toolCalls })
        let results ← runtime.invokeAll input response.toolCalls
        assign (·.say { role := .user, content := "", toolResults := results })
        return none : Method (Conversing World Cost) RunError (Option (RuntimeResult Cost)))
      (fun result s => result = none ∧ Settled messages calls s)
      fun _ => Kept messages calls := by
  intro s hs
  rw [call_assign_bind, call_bind]
  rcases hinvoke : (runtime.invokeAll input response.toolCalls).call (s.say
    { role := .assistant, content := response.text, toolCalls := response.toolCalls }) with
    ⟨e | results, t⟩
  · have hkept := (keeps_invokeAll response.toolCalls).raises hinvoke
    obtain ⟨-, -, hexchanges⟩ := dialogue_eq_iff.1 hkept
    exact hs.toKept.of_exchanges hexchanges
  · have hkept := (keeps_invokeAll response.toolCalls).returns hinvoke
    obtain ⟨hconversation, husage, hexchanges⟩ := dialogue_eq_iff.1 hkept
    have hids := callIds_of_invokeAll hinvoke
    have hadded : Turns
        [{ role := .assistant, content := response.text, toolCalls := response.toolCalls },
          { role := .user, content := "", toolResults := results }] :=
      .tools rfl hcalls rfl rfl rfl hids .nil
    refine ⟨rfl, hs.say hadded ?_ hexchanges husage⟩
    show t.conversation ++ _ = _
    rw [hconversation]
    exact List.append_assoc _ _ _

/-- **The closing turn** asks once more, if there are tools. -/
theorem closing_settled (response : ModelResponse Cost) :
    Triple (Settled messages (calls + 1)) (runtime.closing input response)
      (fun _ => Settled messages (calls + callsAStep runtime input))
      fun _ => Kept messages (calls + callsAStep runtime input) := by
  unfold AgentRuntime.closing callsAStep
  by_cases hoffered : runtime.offered input = []
  · rw [if_pos hoffered, if_pos hoffered]
    exact triple_pure fun _ hs => hs
  · rw [if_neg hoffered, if_neg hoffered]
    intro s hs
    rw [call_assign_bind, call_assign_bind]
    refine ask_settled _ _ _ ?_
    exact hs.say (turns_pair rfl rfl rfl rfl) (List.append_assoc _ _ _) rfl rfl

/-- **The validator** is called with the output, and touches nothing of the conversation. -/
theorem refusalOf_settled (output : Object) :
    Triple (Settled messages calls) (@refusalOf World Cost input output)
      (fun refusal s => Settled messages calls s ∧ (refusal = none →
        ∀ accept, input.accept = some accept →
          ∃ world, (accept output).call world = (.ok none, s.world)))
      fun _ => Kept messages calls := by
  unfold refusalOf
  intro s hs
  cases haccept : input.accept with
  | none => exact ⟨hs, fun _ accept hnone => by cases hnone⟩
  | some accept =>
      rcases hcall : (inWorld .accept (accept output)).call s with ⟨e | refusal, t⟩
      · obtain ⟨-, -, hexchanges⟩ := dialogue_eq_iff.1 (keeps_inWorld.raises hcall)
        exact hs.toKept.of_exchanges hexchanges
      · obtain ⟨hconversation, husage, hexchanges⟩ :=
          dialogue_eq_iff.1 (keeps_inWorld.returns hcall)
        have hsettled : Settled messages calls t :=
          hs.say .nil (hconversation.trans (List.append_nil _).symm) hexchanges husage
        refine ⟨hsettled, ?_⟩
        intro hnone found hfound
        cases hfound
        subst hnone
        obtain ⟨world, haccepted, rfl⟩ := zoom_returns.1 hcall
        exact ⟨s.world, haccepted⟩

/-- **A step** that goes on leaves the run settled, and one that does not reports it. -/
theorem turn_settled (step : Nat) :
    Triple (Settled messages calls) (runtime.turn input step)
      (fun result s => Settled messages (calls + callsAStep runtime input) s ∧
        ∀ reported, result = some reported → Reported input reported s)
      fun _ => Kept messages (calls + callsAStep runtime input) := by
  have hstep : 1 ≤ callsAStep runtime input := by
    unfold callsAStep
    split
    · exact le_rfl
    · decide
  have hmore : calls + 1 ≤ calls + callsAStep runtime input := Nat.add_le_add_left hstep calls
  refine Triple.bind ((ask_settled _ _).conseq (fun _ hs => hs) (fun _ _ hs => hs)
    fun _ _ hs => hs.mono hmore) ?_
  intro response
  by_cases hcalls : response.toolCalls ≠ []
  · rw [if_pos hcalls]
    refine (toolTurn_settled hcalls).conseq (fun _ hs => hs) ?_ fun _ _ hs => hs.mono hmore
    intro result s hs
    refine ⟨hs.2.mono hmore, ?_⟩
    intro reported hreported
    rw [hs.1] at hreported
    cases hreported
  · rw [if_neg hcalls]
    refine Triple.bind (closing_settled response) ?_
    intro closed
    refine Triple.bind (triple_eval (fun _ _ _ hs => hs) fun _ _ _ hs => hs.toKept) ?_
    intro output
    refine Triple.bind (refusalOf_settled output) ?_
    intro refusal
    cases refusal with
    | none =>
        intro s hs
        refine ⟨hs.1, ?_⟩
        intro reported hreported
        cases hreported
        exact ⟨hs.1.answered, hs.1.usage, hs.2 rfl⟩
    | some refusal =>
        intro s hs
        refine ⟨?_, ?_⟩
        · exact hs.1.say (turns_pair rfl rfl rfl rfl) (List.append_assoc _ _ _) rfl rfl
        · intro reported hreported
          cases hreported

/-- **A run** makes so many calls a step. -/
theorem loop_settled (left step : Nat) :
    Triple (Settled messages calls) (runtime.loop input left step)
      (fun result s => Settled messages (calls + left * callsAStep runtime input) s ∧
        Reported input result s)
      fun error s => Kept messages (calls + left * callsAStep runtime input) s ∧
        ∀ text, error = .stepBudgetExhausted text → Continues messages s.conversation := by
  induction left generalizing calls step with
  | zero =>
      refine triple_raise ?_
      intro s hs
      rw [Nat.zero_mul, Nat.add_zero]
      exact ⟨hs.toKept, fun _ _ => hs.transcript⟩
  | succ left ih =>
      have hcalls : calls + (left + 1) * callsAStep runtime input =
          calls + callsAStep runtime input + left * callsAStep runtime input := by
        rw [Nat.succ_mul]
        omega
      rw [hcalls]
      intro s hs
      have hturn := @turn_settled World Cost _ _ runtime input messages calls step s hs
      show Outcome _ _ ((runtime.turn input step >>= _).call s)
      rw [call_bind]
      rcases hcall : (runtime.turn input step).call s with ⟨error | result, t⟩
      · rw [hcall] at hturn
        refine ⟨hturn.mono (Nat.le_add_right _ _), ?_⟩
        intro message hmessage
        exact absurd hmessage (early_turn step s error t hcall message)
      · rw [hcall] at hturn
        cases result with
        | none => exact ih (step + 1) t hturn.1
        | some result => exact ⟨hturn.1.mono (Nat.le_add_right _ _), hturn.2 result rfl⟩

theorem settled_start (world : World) :
    Settled messages 0 (Conversing.start world messages : Conversing World Cost) where
  sent := by simp [Conversing.start]
  calls := le_rfl
  transcript := ⟨[], (List.append_nil _).symm, .nil⟩
  answered := rfl
  usage := ⟨rfl, rfl, rfl⟩

/-- **A run keeps its transcript**: whatever the model answers, every conversation that it is sent
goes on from the messages of the caller with each turn of tool calls answered by the next one, as
does the conversation at the end; there are no more calls than so many for each step; and what is
reported is what all the calls have used, with an output that the validator took. -/
theorem run_keeps_transcript (runtime : AgentRuntime World Cost) (input : RunInput World)
    (world : World) :
    (∀ exchange ∈ (runtime.run input world).2.exchanges,
      Continues input.messages exchange.request.messages) ∧
    (runtime.run input world).2.exchanges.length ≤
      runtime.maxSteps.toNat * callsAStep runtime input ∧
    (∀ result, (runtime.run input world).1 = .ok result →
      Continues input.messages (runtime.run input world).2.conversation ∧
        Reported input result (runtime.run input world).2) ∧
    ∀ message, (runtime.run input world).1 = .error (.stepBudgetExhausted message) →
      Continues input.messages (runtime.run input world).2.conversation := by
  have hrun := @loop_settled World Cost _ _ runtime input input.messages 0 runtime.maxSteps.toNat 1
    (.start world input.messages) (settled_start world)
  rw [Nat.zero_add] at hrun
  unfold AgentRuntime.run
  rcases hcall : (runtime.loop input runtime.maxSteps.toNat 1).call
    (.start world input.messages) with ⟨error | result, t⟩
  · rw [hcall] at hrun
    refine ⟨hrun.1.sent, hrun.1.calls, ?_, ?_⟩
    · intro result hresult
      cases hresult
    · intro message hmessage
      cases hmessage
      exact hrun.2 message rfl
  · rw [hcall] at hrun
    refine ⟨hrun.1.sent, hrun.1.calls, ?_, ?_⟩
    · intro reported hreported
      cases hreported
      exact ⟨hrun.1.transcript, hrun.2⟩
    · intro message hmessage
      cases hmessage

end Run

end AgentExecution

end Zentra
