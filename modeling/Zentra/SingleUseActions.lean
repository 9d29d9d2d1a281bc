import Zentra.ArchivedThreads
import Zentra.Visualization

/-!
# Actions that are used once

An action of a visualization goes on with its conversation.  It is consumed in a transaction of
its own, under the lock of its row; the message is posted in the next one, by the thread service.

* `Phase` — how far the action has come;
* `ends_iff` — when the action is consumed for a message that was posted.
-/

open Raising Raising.Method StepTrace
open Zentra.ThreadService.ThreadCalls (smallTalk member activeThread)

namespace Zentra

namespace VisualizationService

inductive ActionError
  | visualization (error : VisualizationError)
  | thread (error : ThreadError)
  | assertion
  deriving DecidableEq

/-- What the transaction finds beside the artifact and the action. -/
structure ActionPorts where
  hasRun : Bool := true
  hasCitation : Bool := true
  hasContinuation : Bool := true

/-- A citation is opened, or the conversation goes on: with the action as it is left, and the
message. -/
inductive Opened
  | citation (citationId analysisRunId : UUID)
  | followUp (action : VisualizationActionMapping) (content : String)

/-- The row as the transaction leaves it. -/
def consumed (action : VisualizationActionMapping) (now : Int) : VisualizationActionMapping :=
  if action.singleUse then { action with consumedAt := some now } else action

/-- The transaction of `execute_action`, on the rows of the actor's organization. -/
def openAction (ports : ActionPorts) (now : Int) (artifact : Option VisualizationArtifact)
    (action : Option VisualizationActionMapping) : Except ActionError Opened := do
  match artifact, action with
  | some artifact, some action =>
      artifact.statusContentIsConsistent.mapError .visualization
      if artifact.status ≠ .ready then
        throw (.visualization (.conflict "Visualization action is not available"))
      else if !ports.hasRun then
        throw (.visualization (.notFound "Visualization action was not found"))
      else if action.expiresAt ≤ now ∨ action.consumedAt ≠ none then
        throw (.visualization (.conflict "Visualization action is no longer available"))
      else
        match action.kind with
        | .openCitation =>
            match action.citationId with
            | none => throw .assertion
            | some citationId =>
                if ports.hasCitation then pure (.citation citationId action.analysisRunId)
                else throw (.visualization (.notFound "Evidence was not found"))
        | .continueConversation =>
            match ports.hasContinuation, action.followUpMessage with
            | true, some content => pure (.followUp (consumed action now) content)
            | _, _ =>
                throw (.visualization (.conflict "Conversation continuation is unavailable"))
  | _, _ => throw (.visualization (.notFound "Visualization action was not found"))

/-- **What the transaction needs** to go on with a conversation, and what it leaves. -/
theorem openAction_eq_ok {ports : ActionPorts} {now : Int}
    {artifact : Option VisualizationArtifact} {action : VisualizationActionMapping}
    {opened : Opened} (hkind : action.kind = .continueConversation)
    (h : openAction ports now artifact (some action) = .ok opened) :
    action.consumedAt = none ∧ ∃ content, opened = .followUp (consumed action now) content := by
  cases artifact with
  | none => cases h
  | some artifact =>
      rw [openAction] at h
      cases hvalid : artifact.statusContentIsConsistent with
      | error error =>
          rw [hvalid] at h
          cases h
      | ok valid =>
          rw [hvalid, hkind] at h
          dsimp only [Except.mapError, bind, Except.bind] at h
          split at h
          · cases h
          split at h
          · cases h
          split at h
          · cases h
          next hfree =>
            push Not at hfree
            split at h
            · cases h
              exact ⟨hfree.2, _, rfl⟩
            · cases h

/-- A call of `execute_action`. -/
inductive ActionCall
  | idle
  /-- the first transaction has committed -/
  | continuing (actor : AuthenticatedActor) (threadId : UUID) (content : String)
  | returned (result : Except ActionError Unit)

/-- What a call still does, or has done, about the action. -/
inductive Standing
  | away
  | waits
  | succeeded
  deriving DecidableEq

def ActionCall.standing : ActionCall → Standing
  | idle | returned (.error _) => .away
  | continuing _ _ _ => .waits
  | returned (.ok ()) => .succeeded

/-- The action with its artifact, the calls, and how many messages they have posted. -/
structure ActionCalls where
  artifact : Option VisualizationArtifact
  action : VisualizationActionMapping
  calls : Nat → ActionCall := fun _ => .idle
  appended : Nat := 0

/-- The two transactions of a call.  Anything may have happened to the threads before the
second; `flush` is what the audit writer raises after its commit. -/
inductive ActionStep
  | execute (call : Nat) (ports : ActionPorts) (actor : AuthenticatedActor) (now : Int)
  | append (call : Nat) (env : ThreadEnvironment) (threads : ThreadTables)
      (flush : Option ThreadError)

namespace ActionCalls

variable {s t : ActionCalls}

def setCall (s : ActionCalls) (call : Nat) (stage : ActionCall) : ActionCalls :=
  { s with calls := Function.update s.calls call stage }

/-- A row of the actor's organization. -/
def visible {α : Type} (organizationId : α → UUID) (actor : AuthenticatedActor) (row : Option α) :
    Option α :=
  row.filter fun row => organizationId row = actor.organizationId

/-- What the second transaction returns or raises. -/
def taken (env : ThreadEnvironment) (actor : AuthenticatedActor) (threadId : UUID)
    (content : String) (threads : ThreadTables) : Except ThreadError ThreadService.ThreadDetail :=
  ((ThreadService.transaction (ThreadService.append env actor threadId content)).call threads).1

def step (s : ActionCalls) : ActionStep → Option ActionCalls
  | .execute call ports actor now =>
      match s.calls call with
      | .idle =>
          some (match openAction ports now
              (visible VisualizationArtifact.organizationId actor s.artifact)
              (visible VisualizationActionMapping.organizationId actor (some s.action)) with
            | .error error => s.setCall call (.returned (.error error))
            | .ok (.citation _ _) => s.setCall call (.returned (.ok ()))
            | .ok (.followUp row content) =>
                { s with action := row }.setCall call (.continuing actor row.threadId content))
      | _ => none
  | .append call env threads flush =>
      match s.calls call with
      | .continuing actor threadId content =>
          some (match taken env actor threadId content threads, flush with
            | .error error, _ => s.setCall call (.returned (.error (.thread error)))
            | .ok _, some error =>
                { s with appended := s.appended + 1 }.setCall call
                  (.returned (.error (.thread error)))
            | .ok _, none =>
                { s with appended := s.appended + 1 }.setCall call (.returned (.ok ())))
      | _ => none

/-- The conversation takes the message. -/
def Continues (s : ActionCalls) : ActionStep → Prop
  | .execute _ _ _ _ => True
  | .append call env threads flush =>
      match s.calls call with
      | .continuing actor threadId content =>
          (taken env actor threadId content threads).isOk = true ∧ flush = none
      | _ => True

/-- An action that goes on with a conversation, and is used once. -/
def Usable (action : VisualizationActionMapping) : Prop :=
  action.kind = .continueConversation ∧ action.singleUse = true

structure Fresh (s : ActionCalls) : Prop where
  usable : Usable s.action
  available : s.action.consumedAt = none
  idle : ∀ call, s.calls call = .idle
  appended : s.appended = 0

def standings (s : ActionCalls) : Nat → Standing := fun call => (s.calls call).standing

def Quiet (s : ActionCalls) : Prop := ∀ call, s.standings call ≠ .waits

/-- The action is consumed if and only if its message was posted, and a call that raises leaves
it available. -/
structure Settled (s : ActionCalls) : Prop where
  posted : s.action.consumedAt ≠ none ↔ s.appended = 1
  returned : s.action.consumedAt ≠ none ↔ ∃ call, s.standings call = .succeeded

/-- One call has a standing, the others are away. -/
def only (call : Nat) (standing : Standing) : Nat → Standing :=
  Function.update (fun _ => .away) call standing

/-- How far the action has come; `fine` says that every message was taken. -/
inductive Phase (fine : Prop) (s : ActionCalls) : Prop
  | available (row : s.action.consumedAt = none) (hfine : fine) (appended : s.appended = 0)
      (calls : s.standings = fun _ => .away)
  | continuing (call : Nat) (row : s.action.consumedAt ≠ none) (hfine : fine)
      (appended : s.appended = 0) (calls : s.standings = only call .waits)
  | posted (call : Nat) (row : s.action.consumedAt ≠ none) (hfine : fine)
      (appended : s.appended = 1) (calls : s.standings = only call .succeeded)
  | lost (row : s.action.consumedAt ≠ none) (hlost : ¬ fine) (appended : s.appended ≤ 1)
      (calls : s.standings = fun _ => .away)

theorem standings_setCall (s : ActionCalls) (call : Nat) (stage : ActionCall) :
    (s.setCall call stage).standings = Function.update s.standings call stage.standing :=
  Function.comp_update ActionCall.standing s.calls call stage

theorem Phase.refused {fine : Prop} (h : Phase fine s) {call : Nat} {error : ActionError}
    (hidle : s.calls call = .idle) :
    Phase fine (s.setCall call (.returned (.error error))) := by
  have haway : s.standings call = .away := by rw [standings, hidle]; rfl
  have hsame : (s.setCall call (.returned (.error error))).standings = s.standings := by
    rw [standings_setCall]
    exact Function.update_eq_self_iff.2 haway.symm
  cases h with
  | available row hfine appended calls => exact .available row hfine appended (hsame.trans calls)
  | continuing winner row hfine appended calls =>
      exact .continuing winner row hfine appended (hsame.trans calls)
  | posted winner row hfine appended calls =>
      exact .posted winner row hfine appended (hsame.trans calls)
  | lost row hlost appended calls => exact .lost row hlost appended (hsame.trans calls)

/-- The first transaction: it is refused, or it consumes the action. -/
theorem Phase.execute {fine : Prop} (h : Phase fine s) (husable : Usable s.action) {call : Nat}
    {ports : ActionPorts} {actor : AuthenticatedActor} {now : Int}
    (hstep : s.step (.execute call ports actor now) = some t) :
    Usable t.action ∧ Phase fine t := by
  rw [step] at hstep
  cases hcall : s.calls call with
  | continuing => simp [hcall] at hstep
  | returned => simp [hcall] at hstep
  | idle =>
      simp only [hcall, Option.some.injEq] at hstep
      subst hstep
      cases hopen : openAction ports now
          (visible VisualizationArtifact.organizationId actor s.artifact)
          (visible VisualizationActionMapping.organizationId actor (some s.action)) with
      | error error => exact ⟨husable, h.refused hcall⟩
      | ok opened =>
          have hrow : visible VisualizationActionMapping.organizationId actor (some s.action) =
              some s.action := by
            by_contra hhidden
            rw [visible, Option.filter_some, ite_eq_left_iff] at hhidden
            have hnone : visible VisualizationActionMapping.organizationId actor
                (some s.action) = none := by
              rw [visible, Option.filter_some, if_neg fun hmine => hhidden fun h => absurd hmine h]
            rw [hnone] at hopen
            unfold openAction at hopen
            split at hopen
            next hsome => cases hsome
            · cases hopen
          rw [hrow] at hopen
          obtain ⟨hfree, content, rfl⟩ := openAction_eq_ok husable.1 hopen
          have hconsumed : consumed s.action now = { s.action with consumedAt := some now } :=
            if_pos husable.2
          refine ⟨?_, ?_⟩
          · show Usable (consumed s.action now)
            rw [hconsumed]
            exact husable
          · cases h with
            | available _ hfine appended calls =>
                refine .continuing call ?_ hfine appended ?_
                · show (consumed s.action now).consumedAt ≠ none
                  rw [hconsumed]
                  exact Option.some_ne_none now
                · rw [standings_setCall]
                  exact congrArg (Function.update · call Standing.waits) calls
            | continuing _ row => exact absurd hfree row
            | posted _ row => exact absurd hfree row
            | lost row => exact absurd hfree row

theorem Phase.append {fine : Prop} (h : Phase fine s) {call : Nat} {env : ThreadEnvironment}
    {threads : ThreadTables} {flush : Option ThreadError}
    (hstep : s.step (.append call env threads flush) = some t) :
    t.action = s.action ∧ Phase (fine ∧ s.Continues (.append call env threads flush)) t := by
  rw [step] at hstep
  cases hcall : s.calls call with
  | idle => simp [hcall] at hstep
  | returned => simp [hcall] at hstep
  | continuing actor threadId content =>
      simp only [hcall, Option.some.injEq] at hstep
      subst hstep
      have hwaits : s.standings call = .waits := by rw [standings, hcall]; rfl
      obtain ⟨row, hfine, happended, hcalls⟩ : s.action.consumedAt ≠ none ∧ fine ∧
          s.appended = 0 ∧ s.standings = only call .waits := by
        cases h with
        | available _ _ _ calls => rw [calls] at hwaits; cases hwaits
        | lost _ _ _ calls => rw [calls] at hwaits; cases hwaits
        | posted winner _ _ _ calls =>
            rw [calls, only, Function.update_apply] at hwaits
            split at hwaits
            · cases hwaits
            · cases hwaits
        | continuing winner row hfine appended calls =>
            have hwinner := hwaits
            rw [calls, only, Function.update_apply] at hwinner
            split at hwinner
            next heq => exact ⟨row, hfine, appended, heq ▸ calls⟩
            · cases hwinner
      have hcalls' (u : ActionCalls) (result : Except ActionError Unit) (hu : u.calls = s.calls) :
          (u.setCall call (.returned result)).standings =
            only call (ActionCall.returned result).standing := by
        have hsame : u.standings = s.standings := by unfold standings; rw [hu]
        rw [standings_setCall, hsame, hcalls, only, Function.update_idem]
        rfl
      have haway : only call .away = fun _ => Standing.away := Function.update_eq_self call _
      have hcondition : s.Continues (.append call env threads flush) ↔
          (taken env actor threadId content threads).isOk = true ∧ flush = none := by
        simp only [Continues, hcall]
      rw [hcondition]
      cases htaken : taken env actor threadId content threads with
      | error error =>
          exact ⟨rfl, .lost row (by simp [Except.isOk, Except.toBool]) (by simp [setCall, happended])
            ((hcalls' s _ rfl).trans haway)⟩
      | ok detail =>
          cases flush with
          | some error =>
              exact ⟨rfl, .lost row (by simp) (by simp [setCall, happended])
                ((hcalls' _ _ rfl).trans haway)⟩
          | none =>
              exact ⟨rfl, .posted call row ⟨hfine, by simp [Except.isOk, Except.toBool]⟩
                (by simp [setCall, happended]) (hcalls' _ _ rfl)⟩

theorem Phase.ends_iff {fine : Prop} (h : Phase fine s) (hquiet : s.Quiet) :
    s.Settled ↔ fine := by
  cases h with
  | available row hfine appended calls =>
      refine iff_of_true ⟨?_, ?_⟩ hfine
      · simp [row, appended]
      · simp [row, calls]
  | continuing call _ _ _ calls =>
      exact absurd (by rw [calls]; exact Function.update_self _ _ _) (hquiet call)
  | posted call row hfine appended calls =>
      refine iff_of_true ⟨iff_of_true row appended, iff_of_true row ⟨call, ?_⟩⟩ hfine
      rw [calls]
      exact Function.update_self _ _ _
  | lost row hlost appended calls =>
      refine iff_of_false (fun hsettled => ?_) hlost
      obtain ⟨call, hcall⟩ := hsettled.returned.1 row
      rw [calls] at hcall
      cases hcall

theorem phase_exec {actions : List ActionStep} (hfresh : s.Fresh) (hrun : Exec step s actions t) :
    Usable t.action ∧ Phase (Allowed step Continues s actions) t := by
  refine hrun.history (fun past t => Usable t.action ∧ Phase (Allowed step Continues s past) t)
    ⟨hfresh.usable, .available hfresh.available trivial hfresh.appended ?_⟩ ?_
  · funext call
    rw [standings, hfresh.idle call]
    rfl
  · intro past t a u hpast hbefore hstep
    obtain ⟨husable, hphase⟩ := hbefore
    rw [allowed_snoc hpast.run_eq]
    cases a with
    | execute call ports actor now =>
        rw [show Continues t (.execute call ports actor now) = True from rfl, and_true]
        exact hphase.execute husable hstep
    | append call env threads flush =>
        obtain ⟨hrow, hafter⟩ := hphase.append hstep
        exact ⟨hrow ▸ husable, hafter⟩

/-- **At most one message** is posted for an action.  When all calls have returned, the action is
consumed if and only if its message was posted, exactly where every message was taken. -/
theorem settled_iff_continues (s t : ActionCalls) (actions : List ActionStep) (hfresh : s.Fresh)
    (hrun : Exec step s actions t) :
    t.appended ≤ 1 ∧ (t.Quiet → (t.Settled ↔ Allowed step Continues s actions)) := by
  obtain ⟨-, hphase⟩ := phase_exec hfresh hrun
  refine ⟨?_, hphase.ends_iff⟩
  cases hphase with
  | available _ _ appended => omega
  | continuing _ _ _ appended => omega
  | posted _ _ _ appended => omega
  | lost _ _ appended => exact appended

/-- A rendered artifact with an action. -/
def rendered : ActionCalls where
  artifact := some {
    visualizationId := 5, organizationId := 1, analysisRunId := 6, briefId := 8, status := .ready
    model := some "c1", apiVersion := some "v1", c1Response := some "chart", createdAt := 0
    updatedAt := 0 }
  action := {
    actionId := 9, organizationId := 1, visualizationId := 5, threadId := 7, analysisRunId := 6
    kind := .continueConversation, label := "Why?", followUpMessage := some "Why?"
    expiresAt := 100, singleUse := true }

theorem rendered_fresh : rendered.Fresh := ⟨⟨rfl, rfl⟩, rfl, fun _ => rfl, rfl⟩

theorem rendered_settles :
    ∃ t, Exec step rendered [.execute 0 {} member 1,
        .append 0 (smallTalk 2) activeThread.tables none] t ∧
      (t.appended ≤ 1 ∧ (t.Quiet → (t.Settled ↔ Allowed step Continues rendered
        [.execute 0 {} member 1, .append 0 (smallTalk 2) activeThread.tables none]))) := by
  have hrun : (run step rendered [.execute 0 {} member 1,
      .append 0 (smallTalk 2) activeThread.tables none]).isSome := by
    decide +kernel
  obtain ⟨t, ht⟩ := Option.isSome_iff_exists.1 hrun
  exact ⟨t, exec_of_run ht, settled_iff_continues _ _ _ rendered_fresh (exec_of_run ht)⟩

def archivedThread : ThreadTables :=
  { activeThread.tables with
    sessions := fun threadId => (activeThread.tables.sessions threadId).map fun session =>
      { session with thread := session.thread.archive 1 } }

theorem archived_consumes :
    ∃ t, Exec step rendered [.execute 0 {} member 1,
        .append 0 (smallTalk 2) archivedThread none] t ∧ t.Quiet ∧ ¬ t.Settled := by
  let opened : ActionCalls :=
    { rendered with action := consumed rendered.action 1 }.setCall 0 (.continuing member 7 "Why?")
  have hopen : step rendered (.execute 0 {} member 1) = some opened := rfl
  have happend : step opened (.append 0 (smallTalk 2) archivedThread none) =
      some (opened.setCall 0 (.returned (.error (.thread
        (.conflict "Archived Threads cannot accept messages"))))) := rfl
  refine ⟨_, .snoc (.snoc .nil hopen) happend, fun call => ?_, fun hsettled => ?_⟩
  · rw [standings_setCall, Function.update_apply]
    split
    · decide
    next hne =>
      rw [standings_setCall, Function.update_of_ne hne]
      show Standing.away ≠ .waits
      decide
  · have hposted := hsettled.posted
    exact absurd hposted (by decide)

end ActionCalls

end VisualizationService

end Zentra
