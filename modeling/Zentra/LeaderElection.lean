import Mathlib.Order.Lattice
import Zentra.StepTrace

/-!
# The election of a leader among tabs

The tabs of the application elect one that synchronizes for all of them.  They broadcast
messages to each other over a channel that loses none; the messages of a tab arrive in their
order.  Terms number the elections.

* `SelfLed`, `TermsGrow` — a leader knows itself as the leader, and known terms do not
  decrease;
* `Orderly` — the steps that respect the terms.
-/

open StepTrace

namespace Zentra

namespace CrossTab

/-- The messages of an election.  The id in their payload is always that of their sender. -/
inductive Message
  | candidate (term : Nat)
  | elected (term : Nat)
  | heartbeat (term : Nat)
  | resign
  deriving DecidableEq, Repr

/-- `CrossTabManager`: its part in the election, with the timers that are active. -/
structure Tab (ι : Type) where
  started : Bool := false
  isLeader : Bool := false
  currentLeaderId : Option ι := none
  electionTerm : Nat := 0
  currentLeaderTerm : Nat := 0
  isElectionInProgress : Bool := false
  initialElectionTimer : Bool := false
  electionTimer : Bool := false
  resignElectionTimer : Bool := false
  deriving DecidableEq

/-- What a tab becomes, and what it broadcasts. -/
abbrev Move (ι : Type) : Type := Tab ι × List Message

section Tab

variable {ι : Type} (self sender : ι) (term : Nat) (tab : Tab ι)

/-- `start`; the election waits for a timer. -/
def start : Move ι := ({ tab with started := true, initialElectionTimer := true }, [])

def stop : Move ι :=
  ({ tab with
      started := false
      isLeader := false
      initialElectionTimer := false
      electionTimer := false
      resignElectionTimer := false },
    if tab.isLeader then [.resign] else [])

def initiateElection : Move ι :=
  if tab.isLeader ∨ tab.isElectionInProgress then (tab, [])
  else
    let electionTerm := max tab.electionTerm tab.currentLeaderTerm + 1
    ({ tab with
        isElectionInProgress := true
        electionTerm := electionTerm
        electionTimer := true },
      [.candidate electionTerm])

def becomeLeader : Move ι :=
  ({ tab with isLeader := true, currentLeaderId := some self, currentLeaderTerm := term },
    [.elected term])

/-- The callback of `initialElectionTimer`. -/
def onInitialElectionTimer : Move ι :=
  let fired := { tab with initialElectionTimer := false }
  if tab.currentLeaderId = none then initiateElection fired else (fired, [])

/-- The callback of `resignElectionTimer`. -/
def onResignElectionTimer : Move ι :=
  let fired := { tab with resignElectionTimer := false }
  if tab.currentLeaderId = none then initiateElection fired else (fired, [])

/-- The callback of `electionTimer`. -/
def onElectionTimer : Move ι :=
  let fired := { tab with electionTimer := false }
  if ¬ tab.isElectionInProgress then (fired, [])
  else if tab.currentLeaderId = none ∨ tab.currentLeaderTerm < tab.electionTerm then
    becomeLeader self tab.electionTerm { fired with isElectionInProgress := false }
  else ({ fired with isElectionInProgress := false }, [])

/-- The callback of `leaderHeartbeatTimer`. -/
def onLeaderHeartbeatTimer : Move ι := (tab, [.heartbeat tab.currentLeaderTerm])

/-- `startLeaderCheck`, when the leader has timed out. -/
def onLeaderTimeout : Move ι := initiateElection { tab with currentLeaderId := none }

/-- `LEADER_CANDIDATE`. -/
def handleCandidate : Move ι :=
  if tab.isLeader ∧ term ≤ tab.currentLeaderTerm then
    (tab, [.heartbeat tab.currentLeaderTerm])
  else if tab.currentLeaderTerm < term then
    ({ tab with currentLeaderTerm := term, isLeader := false }, [])
  else (tab, [])

/-- `LEADER_RESIGN`. -/
def handleResign [DecidableEq ι] : Move ι :=
  if tab.currentLeaderId = some sender then
    ({ tab with
        currentLeaderId := none
        isElectionInProgress := false
        resignElectionTimer := true }, [])
  else (tab, [])

variable [LinearOrder ι]

/-- The term and the id of a sender go before those of a leader. -/
def outranked : Bool :=
  decide (tab.currentLeaderTerm < term) ||
    (decide (term = tab.currentLeaderTerm) && decide (sender < self))

/-- `LEADER_ELECTED`. -/
def handleElected : Move ι :=
  if tab.currentLeaderTerm ≤ term then
    if tab.isLeader ∧ ¬ outranked self sender term tab then
      (tab, [.heartbeat tab.currentLeaderTerm])
    else
      ({ tab with
          isLeader := false
          currentLeaderId := some sender
          currentLeaderTerm := term
          isElectionInProgress := false }, [])
  else (tab, [])

/-- `LEADER_HEARTBEAT`. -/
def handleHeartbeat : Move ι :=
  if tab.currentLeaderTerm ≤ term then
    ({ tab with
        isLeader := tab.isLeader && !outranked self sender term tab
        currentLeaderId := some sender
        currentLeaderTerm := term
        isElectionInProgress := false }, [])
  else (tab, [])

/-- `handleMessage`. -/
def handle : Message → Move ι
  | .candidate term => handleCandidate term tab
  | .elected term => handleElected self sender term tab
  | .heartbeat term => handleHeartbeat self sender term tab
  | .resign => handleResign sender tab

end Tab

/-- All tabs, with what is on its way from a sender to a receiver, whether a tab has broadcast
a heartbeat since it last became the leader, and the highest term it has known. -/
structure System (ι : Type) where
  tabs : ι → Tab ι := fun _ => {}
  inbox : ι → ι → List Message := fun _ _ => []
  beaten : ι → Bool := fun _ => false
  peak : ι → Nat := fun _ => 0

/-- What happens to a tab: a timer fires, a message arrives, or it is opened or closed. -/
inductive Event (ι : Type)
  | start (tab : ι)
  | stop (tab : ι)
  | initialElectionTimer (tab : ι)
  | resignElectionTimer (tab : ι)
  | electionTimer (tab : ι)
  | leaderHeartbeatTimer (tab : ι)
  | leaderTimeout (tab : ι)
  | deliver (sender receiver : ι)

def Message.isHeartbeat : Message → Bool
  | .heartbeat _ => true
  | _ => false

section System

variable {ι : Type} [LinearOrder ι] (s : System ι)

/-- A move of a tab; what it broadcasts goes to all other tabs that are open. -/
def System.act (tab : ι) (move : Move ι) : System ι where
  tabs := Function.update s.tabs tab move.1
  inbox := fun sender receiver =>
    if sender = tab ∧ receiver ≠ tab ∧ (s.tabs receiver).started then
      s.inbox sender receiver ++ move.2
    else s.inbox sender receiver
  beaten := Function.update s.beaten tab
    (move.2.any Message.isHeartbeat || (s.beaten tab && (s.tabs tab).isLeader))
  peak := Function.update s.peak tab (max (s.peak tab) move.1.currentLeaderTerm)

/-- The channel of a tab is closed: nothing arrives there any more. -/
def System.close (tab : ι) : System ι :=
  { s with inbox := fun sender receiver => if receiver = tab then [] else s.inbox sender receiver }

/-- The first message from a sender to a receiver is taken out. -/
def System.pop (source target : ι) (rest : List Message) : System ι :=
  { s with
    inbox := fun sender receiver =>
      if sender = source ∧ receiver = target then rest else s.inbox sender receiver }

/-- A timer fires only if it is active, and a channel delivers only if it is open. -/
def step : Event ι → Option (System ι)
  | .start tab =>
      if (s.tabs tab).started then none else some (s.act tab (start (s.tabs tab)))
  | .stop tab =>
      if (s.tabs tab).started then some ((s.close tab).act tab (stop (s.tabs tab))) else none
  | .initialElectionTimer tab =>
      if (s.tabs tab).initialElectionTimer then
        some (s.act tab (onInitialElectionTimer (s.tabs tab)))
      else none
  | .resignElectionTimer tab =>
      if (s.tabs tab).resignElectionTimer then
        some (s.act tab (onResignElectionTimer (s.tabs tab)))
      else none
  | .electionTimer tab =>
      if (s.tabs tab).electionTimer then
        some (s.act tab (onElectionTimer tab (s.tabs tab)))
      else none
  | .leaderHeartbeatTimer tab =>
      if (s.tabs tab).isLeader then
        some (s.act tab (onLeaderHeartbeatTimer (s.tabs tab)))
      else none
  | .leaderTimeout tab =>
      if (s.tabs tab).started ∧ ¬ (s.tabs tab).isLeader ∧ (s.tabs tab).currentLeaderId ≠ none then
        some (s.act tab (onLeaderTimeout (s.tabs tab)))
      else none
  | .deliver sender receiver =>
      match s.inbox sender receiver with
      | [] => none
      | message :: rest =>
          if (s.tabs receiver).started then
            some ((s.pop sender receiver rest).act receiver
              (handle receiver sender (s.tabs receiver) message))
          else none

def Quiet : Prop := ∀ sender receiver, s.inbox sender receiver = []

/-- Every leader has broadcast a heartbeat since it became the leader. -/
def Heard : Prop := ∀ tab, (s.tabs tab).isLeader = true → s.beaten tab = true

/-- Once all has arrived and every leader has been heard of, there is at most one. -/
def Agreement : Prop :=
  Quiet s → Heard s → ∀ tab other, (s.tabs tab).isLeader = true →
    (s.tabs other).isLeader = true → tab = other

/-- A leader knows itself as the leader. -/
def SelfLed : Prop :=
  ∀ tab, (s.tabs tab).isLeader = true → (s.tabs tab).currentLeaderId = some tab

/-- A tab knows the highest term that it has ever known. -/
def TermsGrow : Prop := ∀ tab, s.peak tab ≤ (s.tabs tab).currentLeaderTerm

structure Agreed : Prop where
  agreement : Agreement s
  selfLed : SelfLed s
  termsGrow : TermsGrow s

/-- **The condition.**  A candidate whose election is over has heard of no term above its own,
unless it knows a leader; and no leader gets a heartbeat of its own term from a tab with a
greater id. -/
def Orderly : Event ι → Prop
  | .electionTimer tab =>
      (s.tabs tab).isElectionInProgress = true → (s.tabs tab).currentLeaderId = none →
        (s.tabs tab).currentLeaderTerm ≤ (s.tabs tab).electionTerm
  | .deliver sender receiver => ∀ term rest,
      s.inbox sender receiver = .heartbeat term :: rest →
        (s.tabs receiver).isLeader = true → term = (s.tabs receiver).currentLeaderTerm →
          ¬ receiver < sender
  | _ => True

end System

end CrossTab

end Zentra
