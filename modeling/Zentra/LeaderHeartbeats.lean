import Mathlib.Algebra.Order.Ring.Rat
import Mathlib.Tactic.Linarith
import Mathlib.Tactic.Ring
import Zentra.StepTrace

/-!
# Heartbeats of a leader

A leader broadcasts heartbeats, less and less often as long as nothing happens; the other tabs
take it for dead if they have not heard one for some time.  Messages are delivered at once
here, and timers fire when they are due.

* `exists_quiet` — the run without any activity, which comes to the longest interval;
* `stable_iff` — followers never time out exactly if the longest interval is within their
  timeout.
-/

open StepTrace

namespace Zentra

namespace LeaderHeartbeats

/-- `CrossTabManagerConfig`, in milliseconds. -/
structure Config where
  leaderHeartbeatInterval : ℚ := 2000
  leaderTimeout : ℚ := 5000

/-- What a follower knows of the leader. -/
structure Follower where
  currentLeaderTerm : Nat
  lastLeaderHeartbeat : ℚ
  deriving DecidableEq

/-- A leader with its term and the time at which its heartbeat timer fires, and its
followers. -/
structure Leadership (ι : Type) where
  now : ℚ
  currentLeaderTerm : Nat
  currentHeartbeatInterval : ℚ
  consecutiveQuietHeartbeats : Nat
  due : ℚ
  followers : ι → Follower

/-- What happens: time passes, the heartbeat timer fires, or there is some activity. -/
inductive Event
  | wait (time : ℚ)
  | heartbeat
  | activity

variable {ι : Type} (config : Config)

/-- `LEADER_HEARTBEAT`, of a follower. -/
def Follower.handleHeartbeat (term : Nat) (now : ℚ) (follower : Follower) : Follower :=
  if follower.currentLeaderTerm ≤ term then
    { currentLeaderTerm := term, lastLeaderHeartbeat := now }
  else follower

/-- `startLeaderCheck`: the leader has timed out. -/
def Follower.timedOut (now : ℚ) (follower : Follower) : Bool :=
  decide (config.leaderTimeout < now - follower.lastLeaderHeartbeat)

/-- `scheduleNextHeartbeat`: a timer never has a negative delay. -/
def Leadership.scheduleNextHeartbeat (s : Leadership ι) : Leadership ι :=
  { s with due := s.now + max 0 s.currentHeartbeatInterval }

/-- `becomeLeader`, with what followers make of its message, and `startLeaderHeartbeat`. -/
def becomeLeader (term : Nat) (now : ℚ) : Leadership ι :=
  Leadership.scheduleNextHeartbeat
    { now := now
      currentLeaderTerm := term
      currentHeartbeatInterval := config.leaderHeartbeatInterval
      consecutiveQuietHeartbeats := 0
      due := now
      followers := fun _ => { currentLeaderTerm := term, lastLeaderHeartbeat := now } }

/-- The interval after a quiet heartbeat, of which there have been `quiet`. -/
def nextInterval (interval : ℚ) (quiet : Nat) : ℚ :=
  if 3 < quiet then min (interval * (3 / 2)) (config.leaderHeartbeatInterval * 4) else interval

/-- The callback of `leaderHeartbeatTimer`. -/
def Leadership.beat (s : Leadership ι) : Leadership ι :=
  Leadership.scheduleNextHeartbeat
    { s with
      followers := fun follower =>
        (s.followers follower).handleHeartbeat s.currentLeaderTerm s.now
      consecutiveQuietHeartbeats := s.consecutiveQuietHeartbeats + 1
      currentHeartbeatInterval :=
        nextInterval config s.currentHeartbeatInterval (s.consecutiveQuietHeartbeats + 1) }

/-- Time passes up to the next heartbeat; `activity` is `resetHeartbeatInterval`. -/
def step (s : Leadership ι) : Event → Option (Leadership ι)
  | .wait time =>
      if 0 ≤ time ∧ s.now + time ≤ s.due then some { s with now := s.now + time } else none
  | .heartbeat => if s.now = s.due then some (s.beat config) else none
  | .activity =>
      some { s with
        currentHeartbeatInterval := config.leaderHeartbeatInterval
        consecutiveQuietHeartbeats := 0 }

/-- Every follower has heard from the leader within its timeout. -/
def Stable (s : Leadership ι) : Prop :=
  ∀ follower, s.now - (s.followers follower).lastLeaderHeartbeat ≤ config.leaderTimeout

/-- The longest delay of a heartbeat. -/
def longest : ℚ := max 0 (config.leaderHeartbeatInterval * 4)

section Bound

variable {config} {s t : Leadership ι} {event : Event}

/-- The next heartbeat is due within the longest delay of the last one. -/
structure Inv (config : Config) (s : Leadership ι) : Prop where
  interval : s.currentHeartbeatInterval ≤ longest config
  terms : ∀ follower, (s.followers follower).currentLeaderTerm = s.currentLeaderTerm
  notLate : s.now ≤ s.due
  gap : ∀ follower, s.due ≤ (s.followers follower).lastLeaderHeartbeat + longest config

theorem longest_nonneg : 0 ≤ longest config := le_max_left _ _

theorem interval_le_longest : config.leaderHeartbeatInterval ≤ longest config := by
  unfold longest
  obtain hneg | hpos := le_total config.leaderHeartbeatInterval 0
  · exact hneg.trans (le_max_left _ _)
  · refine le_max_of_le_right ?_
    linarith

theorem nextInterval_le_longest {interval : ℚ} (quiet : Nat)
    (h : interval ≤ longest config) : nextInterval config interval quiet ≤ longest config := by
  unfold nextInterval
  split
  · exact (min_le_right _ _).trans (le_max_right _ _)
  · exact h

theorem max_interval_le {interval : ℚ} (h : interval ≤ longest config) :
    max 0 interval ≤ longest config := max_le longest_nonneg h

theorem Inv.becomeLeader (term : Nat) (now : ℚ) :
    Inv config (LeaderHeartbeats.becomeLeader config term now : Leadership ι) where
  interval := interval_le_longest
  terms := fun _ => rfl
  notLate := le_add_of_nonneg_right (le_max_left _ _)
  gap := fun _ => by
    have hdelay := max_interval_le (@interval_le_longest config)
    simpa [LeaderHeartbeats.becomeLeader, Leadership.scheduleNextHeartbeat] using hdelay

theorem Inv.beat (hinv : Inv config s) : Inv config (s.beat config) := by
  have hinterval := nextInterval_le_longest (s.consecutiveQuietHeartbeats + 1) hinv.interval
  have haccepted : ∀ follower,
      (s.followers follower).handleHeartbeat s.currentLeaderTerm s.now =
        { currentLeaderTerm := s.currentLeaderTerm, lastLeaderHeartbeat := s.now } := by
    intro follower
    have hterm := (hinv.terms follower).le
    simp [Follower.handleHeartbeat, hterm]
  constructor
  · exact hinterval
  · intro follower
    simp [Leadership.beat, Leadership.scheduleNextHeartbeat, haccepted]
  · exact le_add_of_nonneg_right (le_max_left _ _)
  · intro follower
    have hdelay := max_interval_le hinterval
    simpa [Leadership.beat, Leadership.scheduleNextHeartbeat, haccepted] using hdelay

theorem Inv.step (hinv : Inv config s) (h : LeaderHeartbeats.step config s event = some t) :
    Inv config t := by
  cases event with
  | wait time =>
      rw [LeaderHeartbeats.step] at h
      split at h
      next htime =>
        cases h
        exact ⟨hinv.interval, hinv.terms, htime.2, hinv.gap⟩
      next => cases h
  | heartbeat =>
      rw [LeaderHeartbeats.step] at h
      split at h
      next =>
        cases h
        exact hinv.beat
      next => cases h
  | activity =>
      cases h
      exact ⟨interval_le_longest, hinv.terms, hinv.notLate, hinv.gap⟩

theorem Inv.stable (hinv : Inv config s) (h : longest config ≤ config.leaderTimeout) :
    Stable config s := by
  intro follower
  have hgap := hinv.gap follower
  have hnotLate := hinv.notLate
  linarith

end Bound

section Quiet

variable {config} {s : Leadership ι}

def quietInterval (config : Config) : Nat → ℚ
  | 0 => config.leaderHeartbeatInterval
  | n + 1 => nextInterval config (quietInterval config n) (n + 1)

/-- The leader has just broadcast a heartbeat, the `n`th since the last activity. -/
structure Beaten (config : Config) (n : Nat) (s : Leadership ι) : Prop where
  interval : s.currentHeartbeatInterval = quietInterval config n
  quiet : s.consecutiveQuietHeartbeats = n
  due : s.due = s.now + max 0 (quietInterval config n)
  followers : ∀ follower, s.followers follower =
    { currentLeaderTerm := s.currentLeaderTerm, lastLeaderHeartbeat := s.now }

theorem Beaten.becomeLeader (term : Nat) (now : ℚ) :
    Beaten config 0 (LeaderHeartbeats.becomeLeader config term now : Leadership ι) :=
  ⟨rfl, rfl, rfl, fun _ => rfl⟩

/-- Without any activity, the next heartbeat follows when it is due. -/
theorem Beaten.exists_next {n : Nat} (h : Beaten config n s) :
    ∃ t, Exec (step config) s [.wait (max 0 (quietInterval config n)), .heartbeat] t ∧
      Beaten config (n + 1) t := by
  have hwait : step config s (.wait (max 0 (quietInterval config n))) =
      some { s with now := s.due } := by
    have htime : 0 ≤ max 0 (quietInterval config n) ∧
        s.now + max 0 (quietInterval config n) ≤ s.due := ⟨le_max_left _ _, h.due.ge⟩
    rw [step, if_pos htime, h.due]
  have hbeat : step config { s with now := s.due } .heartbeat =
      some (Leadership.beat config { s with now := s.due }) := by
    rw [step, if_pos rfl]
  refine ⟨_, .cons hwait (.cons hbeat .nil), ?_⟩
  constructor
  · simp only [Leadership.beat, Leadership.scheduleNextHeartbeat, h.interval, h.quiet]
    rfl
  · simp only [Leadership.beat, Leadership.scheduleNextHeartbeat, h.quiet]
  · simp only [Leadership.beat, Leadership.scheduleNextHeartbeat, h.interval, h.quiet]
    rfl
  · intro follower
    simp [Leadership.beat, Leadership.scheduleNextHeartbeat, Follower.handleHeartbeat,
      h.followers follower]

/-- **The quiet run**: any number of heartbeats without any activity. -/
theorem exists_quiet (ι : Type) (config : Config) (term : Nat) (now : ℚ) (n : Nat) :
    ∃ events, ∃ t : Leadership ι,
      Exec (step config) (becomeLeader config term now) events t ∧ Beaten config n t := by
  induction n with
  | zero => exact ⟨[], _, .nil, .becomeLeader term now⟩
  | succ n ih =>
      obtain ⟨events, s, hexec, hbeaten⟩ := ih
      obtain ⟨t, hnext, hbeaten'⟩ := hbeaten.exists_next
      exact ⟨_, t, hexec.append hnext, hbeaten'⟩

theorem quietInterval_seven (h : 0 < config.leaderHeartbeatInterval) :
    quietInterval config 7 = config.leaderHeartbeatInterval * 4 := by
  have hthird : quietInterval config 3 = config.leaderHeartbeatInterval := by
    simp [quietInterval, nextInterval]
  have hfourth : quietInterval config 4 = config.leaderHeartbeatInterval * (3 / 2) := by
    rw [quietInterval, nextInterval, if_pos (by decide), hthird]
    exact min_eq_left (by linarith)
  have hfifth : quietInterval config 5 = config.leaderHeartbeatInterval * (9 / 4) := by
    rw [quietInterval, nextInterval, if_pos (by decide), hfourth, min_eq_left (by linarith)]
    ring
  have hsixth : quietInterval config 6 = config.leaderHeartbeatInterval * (27 / 8) := by
    rw [quietInterval, nextInterval, if_pos (by decide), hfifth, min_eq_left (by linarith)]
    ring
  rw [quietInterval, nextInterval, if_pos (by decide), hsixth]
  exact min_eq_right (by linarith)

theorem exists_longest (config : Config) (follower : ι) (term : Nat) (now : ℚ) :
    ∃ events t, Exec (step config) (becomeLeader config term now) events t ∧
      t.now - (t.followers follower).lastLeaderHeartbeat = longest config := by
  obtain hneg | hpos := le_or_gt config.leaderHeartbeatInterval 0
  · refine ⟨[], _, .nil, ?_⟩
    have hlongest : longest config = 0 := max_eq_left (by linarith)
    rw [hlongest]
    exact sub_self now
  · obtain ⟨events, s, hexec, hbeaten⟩ := exists_quiet ι config term now 7
    have hlongest : longest config = max 0 (quietInterval config 7) := by
      rw [quietInterval_seven hpos]
      rfl
    have hwait : step config s (.wait (longest config)) = some { s with now := s.due } := by
      have htime : 0 ≤ longest config ∧ s.now + longest config ≤ s.due :=
        ⟨longest_nonneg, by rw [hlongest, hbeaten.due]⟩
      rw [step, if_pos htime, hbeaten.due, hlongest]
    refine ⟨_, _, hexec.snoc hwait, ?_⟩
    rw [hlongest, hbeaten.followers follower, hbeaten.due]
    ring

end Quiet

/-- **When leadership is stable.**  However long the leader stays alive, and whatever activity
there is, no follower waits longer than its timeout: exactly if four heartbeat intervals are
within it. -/
theorem stable_iff (config : Config) (follower : ι) :
    (∀ term now events, ∀ t : Leadership ι,
      Exec (step config) (becomeLeader config term now) events t → Stable config t) ↔
      max 0 (config.leaderHeartbeatInterval * 4) ≤ config.leaderTimeout := by
  constructor
  · intro hstable
    obtain ⟨events, t, hexec, hlongest⟩ := exists_longest config follower 0 0
    have hfollower := hstable 0 0 events t hexec follower
    rwa [hlongest] at hfollower
  · intro hlongest term now events t hexec
    have hinv : Inv config t := hexec.invariant (Inv config) (.becomeLeader term now)
      fun _ _ _ hinv hstep => hinv.step hstep
    exact hinv.stable hlongest

/-- Six heartbeats with the default configuration, and the wait for the seventh. -/
def defaultQuiet : List Event :=
  [.wait 2000, .heartbeat, .wait 2000, .heartbeat, .wait 2000, .heartbeat, .wait 2000, .heartbeat,
    .wait 3000, .heartbeat, .wait 4500, .heartbeat, .wait 6750]

/-- **The default configuration.**  With an interval of two seconds and a timeout of five, a
follower waits for 6.75 seconds after the sixth heartbeat. -/
theorem default_times_out :
    ({} : Config).leaderHeartbeatInterval < ({} : Config).leaderTimeout ∧
      ∃ t : Leadership Unit,
        Exec (step {}) (becomeLeader {} 1 0) defaultQuiet t ∧ ¬ Stable {} t := by
  obtain ⟨t, hexec, hlate⟩ : ∃ t : Leadership Unit,
      Exec (step {}) (becomeLeader {} 1 0) defaultQuiet t ∧
        5000 < t.now - (t.followers ()).lastLeaderHeartbeat :=
    exists_exec (by decide +kernel)
  exact ⟨by decide +kernel, t, hexec, fun hstable => absurd (hstable ()) (not_le.2 hlate)⟩

end LeaderHeartbeats

end Zentra
