import Mathlib.Logic.Function.Basic
import Zentra.MutationQueue
import Zentra.StepTrace

/-!
# Tabs that share the mutation queue

Every tab has a coordinator of its own: it synchronizes when it starts, when it becomes
the leader, when the network comes back, and when a timer fires.  Its mutex keeps it from
synchronizing twice at a time, but the tabs share the table of mutations only.

* `TakesWaiting` — the steps that start on a mutation which is still pending;
* `once_of_takesWaiting` — if all steps do, no executor is handed a mutation that one has
  already succeeded with.
-/

open StepTrace

namespace Zentra

namespace SyncEngine

/-- `SyncCoordinator`, with the phase of its synchronization. -/
structure Tab where
  started : Bool := false
  starting : Bool := false
  online : Bool := false
  leader : Bool := false
  pendingSyncRequest : Bool := false
  syncDebounce : Bool := false
  pendingSyncTimer : Bool := false
  offlineWrites : Nat := 0
  shouldStop : Bool := false
  phase : Phase := .idle
  deriving DecidableEq, Repr

/-- The end of `sync`: the mutex is released, and a request that came in between gets a
timer. -/
def Tab.release (tab : Tab) : Tab :=
  { tab with
    phase := .idle
    pendingSyncRequest := false
    pendingSyncTimer := tab.pendingSyncTimer || tab.pendingSyncRequest }

/-- `sync`: `tryAcquire` fails while this tab synchronizes. -/
def Tab.sync (tab : Tab) : Tab :=
  if tab.phase ≠ .idle then { tab with pendingSyncRequest := true }
  else if ¬ tab.online then tab.release
  else { tab with phase := .syncing }

def Tab.scheduleSync (tab : Tab) : Tab :=
  if tab.pendingSyncRequest then tab
  else { tab with pendingSyncRequest := true, syncDebounce := true }

/-- `handleNetworkStatusChange`. -/
def Tab.network (tab : Tab) (online : Bool) : Tab :=
  if online then
    let changed := { tab with online := true }
    if tab.leader then changed.scheduleSync else changed
  else
    { tab with
      online := false
      syncDebounce := false
      pendingSyncRequest := false
      offlineWrites := tab.offlineWrites + 1 }

/-- `LEADER_ELECTED`. -/
def Tab.elected (tab : Tab) (leader : Bool) : Tab :=
  let changed := { tab with leader := leader }
  if leader then changed.scheduleSync else changed

def Tab.stop (tab : Tab) : Tab :=
  { tab with
    started := false
    leader := false
    shouldStop := true
    syncDebounce := false
    pendingSyncTimer := false
    pendingSyncRequest := false }

/-- All tabs and the table that they share.  The code does not have the last three: the
ids that have been given to mutations, the mutations that an executor has succeeded with,
and those of them that an executor has been handed after that. -/
structure System (ι : Type) where
  store : MutationStore
  tabs : ι → Tab
  issued : List String
  done : List String := []
  again : List String := []

/-- What happens: a mutation is made, the coordinator of a tab is called, its
synchronization goes on, or its executor answers. -/
inductive Action (ι : Type)
  | enqueue (entry : MutationEntry)
  | start (tab : ι)
  | initialSync (tab : ι)
  | requestSync (tab : ι)
  | network (tab : ι) (online : Bool)
  | elected (tab : ι) (leader : Bool)
  | otherOnline (tab : ι)
  | debounced (tab : ι)
  | timer (tab : ι)
  | offlineWrite (tab : ι)
  | stop (tab : ι)
  | advance (tab : ι)
  | answer (tab : ι) (outcome : Outcome)

section Steps

variable {ι : Type} [DecidableEq ι]

def System.setTab (s : System ι) (i : ι) (tab : Tab) : System ι :=
  { s with tabs := Function.update s.tabs i tab }

def System.setPhase (s : System ι) (i : ι) (phase : Phase) : System ι :=
  s.setTab i { s.tabs i with phase := phase }

/-- The executor of a tab is called. -/
def System.call (s : System ι) (i : ι) (mutation : MutationEntry) (phase : Phase) : System ι :=
  { s.setPhase i phase with
    again := if mutation.id ∈ s.done then mutation.id :: s.again else s.again }

/-- The next operation of a tab's synchronization on the table, or its call. -/
def advance (config : QueueConfig) (s : System ι) (i : ι) : Option (System ι) :=
  let tab := s.tabs i
  match tab.phase with
  | .idle => none
  | .syncing => some
      { s.setTab i { tab with phase := .listing {}, shouldStop := false } with
        store := markAllPending s.store }
  | .listing pass => some
      (s.setPhase i (listed config tab.shouldStop pass (getPendingMutations s.store)))
  | .choosing pass rest => some (s.setPhase i (choose config tab.shouldStop pass rest))
  | .attempting pass mutation attempt rest => some
      { s.setPhase i (.marked pass mutation attempt rest) with
        store := markInProgress mutation.id s.store }
  | .marked pass mutation attempt rest => some
      (s.call i mutation (.called pass mutation attempt rest))
  | .called _ _ _ _ => none
  | .backingOff pass mutation n rest => some
      (s.setPhase i (attempt config tab.shouldStop pass mutation (n + 1) rest))
  | .succeeded pass mutation rest => some
      { s.setPhase i (.choosing (pass.complete mutation) rest) with
        store := markCompleted mutation.id s.store }
  | .requeueing pass mutation rest => some
      { s.setPhase i (.choosing pass rest) with
        store := updateStatus mutation.id .pending (some (mutation.retryCount + 1)) s.store }
  | .failing pass mutation rest => some
      (s.setPhase i (readFailed pass mutation rest (getMutation mutation.id s.store)))
  | .failed pass mutation retryCount rest => some
      { s.setPhase i (.choosing pass rest) with
        store := updateStatus mutation.id (failedStatus config retryCount) (some retryCount)
          s.store }
  | .abandoning pass [] => some (s.setPhase i (windUp config pass))
  | .abandoning pass (mutation :: pending) => some
      { s.setPhase i (.abandoning pass pending) with
        store := updateStatus mutation.id .failed none s.store }
  | .cleaning => some { s.setPhase i .releasing with store := deleteCompleted s.store }
  | .releasing => some (s.setTab i tab.release)

def answer (config : QueueConfig) (s : System ι) (i : ι) (outcome : Outcome) :
    Option (System ι) :=
  match (s.tabs i).phase with
  | .called pass mutation n rest => some
      { s.setPhase i (executed config pass mutation n rest outcome) with
        done := if outcome = .success then mutation.id :: s.done else s.done }
  | _ => none

def step (config : QueueConfig) (s : System ι) : Action ι → Option (System ι)
  | .enqueue entry =>
      if entry.id ∈ s.issued ∨ entry.status ≠ .pending ∨ entry.retryCount ≠ 0 then none
      else some { s with store := s.store ++ [entry], issued := entry.id :: s.issued }
  | .start i =>
      if (s.tabs i).started then none
      else some (s.setTab i { s.tabs i with started := true, starting := true })
  | .initialSync i =>
      if ¬ (s.tabs i).starting then none
      else
        let tab := { s.tabs i with starting := false }
        some (s.setTab i (if tab.online then tab.sync else tab))
  | .requestSync i => some (s.setTab i (s.tabs i).sync)
  | .network i online => some (s.setTab i ((s.tabs i).network online))
  | .elected i leader => some (s.setTab i ((s.tabs i).elected leader))
  | .otherOnline i =>
      if ¬ (s.tabs i).leader then none else some (s.setTab i (s.tabs i).scheduleSync)
  | .debounced i =>
      if ¬ (s.tabs i).syncDebounce then none
      else some (s.setTab i
        { s.tabs i with syncDebounce := false, pendingSyncRequest := false }.sync)
  | .timer i =>
      if ¬ (s.tabs i).pendingSyncTimer then none
      else
        let tab := { s.tabs i with pendingSyncTimer := false }
        some (s.setTab i (if tab.online then tab.sync else tab))
  | .offlineWrite i =>
      if (s.tabs i).offlineWrites = 0 then none
      else some
        { s.setTab i { s.tabs i with offlineWrites := (s.tabs i).offlineWrites - 1 } with
          store := markAllOfflineQueued s.store }
  | .stop i => some (s.setTab i (s.tabs i).stop)
  | .advance i => advance config s i
  | .answer i outcome => answer config s i outcome

/-- The mutation that a tab works on, from the time it has marked it, and whether its
executor has succeeded with it. -/
def Phase.held : Phase → Option (String × Bool)
  | .attempting _ mutation (_ + 1) _ => some (mutation.id, false)
  | .marked _ mutation _ _ => some (mutation.id, false)
  | .called _ mutation _ _ => some (mutation.id, false)
  | .backingOff _ mutation _ _ => some (mutation.id, false)
  | .succeeded _ mutation _ => some (mutation.id, true)
  | .requeueing _ mutation _ => some (mutation.id, false)
  | .failing _ mutation _ => some (mutation.id, false)
  | .failed _ mutation _ _ => some (mutation.id, false)
  | _ => none

/-- The mutation of its list that a tab is about to start on. -/
def Phase.taking : Phase → Option String
  | .attempting _ mutation 0 _ => some mutation.id
  | _ => none

/-- **The condition.**  A tab starts on a mutation that is still pending in the table, not
only in the list that it has read. -/
def takesWaiting (s : System ι) : Action ι → Bool
  | .advance i =>
      (s.tabs i).phase.taking.all fun id =>
        s.store.any fun entry => entry.id = id ∧ entry.status.waiting
  | _ => true

/-- What holds while tabs start on pending mutations only. -/
structure Inv (s : System ι) : Prop where
  single : ∀ i j id b c, (s.tabs i).phase.held = some (id, b) →
    (s.tabs j).phase.held = some (id, c) → i = j
  heldNotWaiting : ∀ i id b, (s.tabs i).phase.held = some (id, b) → NotWaiting id s.store
  doneNotWaiting : ∀ id ∈ s.done, NotWaiting id s.store
  heldNotDone : ∀ i id, (s.tabs i).phase.held = some (id, false) → id ∉ s.done
  storeIssued : ∀ id ∈ ids s.store, id ∈ s.issued
  heldIssued : ∀ i id b, (s.tabs i).phase.held = some (id, b) → id ∈ s.issued
  doneIssued : ∀ id ∈ s.done, id ∈ s.issued
  once : s.again = []

variable {s : System ι} {i : ι}

/-- A step after which the tab works on the same mutation or on none, and the others are
as little pending as before. -/
theorem Inv.move (hinv : Inv s) {tab : Tab} {store : MutationStore}
    (hheld : tab.phase.held = none ∨ tab.phase.held = (s.tabs i).phase.held)
    (hstore : ∀ id, NotWaiting id s.store →
      NotWaiting id store ∨
        ((s.tabs i).phase.held = some (id, false) ∧ tab.phase.held = none))
    (hids : ∀ id ∈ ids store, id ∈ s.issued) :
    Inv { s.setTab i tab with store := store } := by
  have hheldAt : ∀ j h, (Function.update s.tabs i tab j).phase.held = some h →
      (s.tabs j).phase.held = some h := by
    intro j h hj
    by_cases hji : j = i
    · subst hji
      rw [Function.update_self] at hj
      obtain hnone | hsame := hheld
      · rw [hnone] at hj
        cases hj
      · rwa [hsame] at hj
    · rwa [Function.update_of_ne hji] at hj
  constructor
  · intro j k id b c hj hk
    exact hinv.single j k id b c (hheldAt j _ hj) (hheldAt k _ hk)
  · intro j id b hj
    have hold := hheldAt j _ hj
    obtain hkeeps | ⟨hreleased, hnone⟩ := hstore id (hinv.heldNotWaiting j id b hold)
    · exact hkeeps
    · have hji : j = i := hinv.single j i id b false hold hreleased
      subst hji
      have hself : tab.phase.held = some (id, b) := by
        simpa [System.setTab, Function.update_self] using hj
      rw [hnone] at hself
      cases hself
  · intro id hid
    obtain hkeeps | ⟨hreleased, -⟩ := hstore id (hinv.doneNotWaiting id hid)
    · exact hkeeps
    · exact absurd hid (hinv.heldNotDone i id hreleased)
  · intro j id hj
    exact hinv.heldNotDone j id (hheldAt j _ hj)
  · exact hids
  · intro j id b hj
    exact hinv.heldIssued j id b (hheldAt j _ hj)
  · exact hinv.doneIssued
  · exact hinv.once

theorem Inv.setTab (hinv : Inv s) {tab : Tab}
    (hheld : tab.phase.held = none ∨ tab.phase.held = (s.tabs i).phase.held) :
    Inv (s.setTab i tab) :=
  hinv.move hheld (fun _ h => .inl h) hinv.storeIssued

theorem Inv.take (hinv : Inv s) {pass : Pass} {mutation : MutationEntry}
    {rest : List MutationEntry} (hphase : (s.tabs i).phase = .attempting pass mutation 0 rest)
    (hwaiting : ∃ entry ∈ s.store, entry.id = mutation.id ∧ entry.status.waiting = true) :
    Inv { s.setPhase i (.marked pass mutation 0 rest) with
      store := markInProgress mutation.id s.store } := by
  obtain ⟨entry, hentry, hid, hstatus⟩ := hwaiting
  have hnot : ¬ NotWaiting mutation.id s.store := by
    intro h
    rw [h entry hentry hid] at hstatus
    cases hstatus
  -- nobody works on a mutation that is pending, and no executor has succeeded with it
  have hfree : ∀ j b, (s.tabs j).phase.held ≠ some (mutation.id, b) :=
    fun j b hj => hnot (hinv.heldNotWaiting j _ b hj)
  have hheldAt : ∀ j id b,
      ((s.setPhase i (.marked pass mutation 0 rest)).tabs j).phase.held = some (id, b) →
        (j = i ∧ id = mutation.id ∧ b = false) ∨ (s.tabs j).phase.held = some (id, b) := by
    intro j id b hj
    by_cases hji : j = i
    · subst hji
      simp only [System.setPhase, System.setTab, Function.update_self, Phase.held,
        Option.some.injEq, Prod.mk.injEq] at hj
      exact .inl ⟨rfl, hj.1.symm, hj.2.symm⟩
    · simp only [System.setPhase, System.setTab, Function.update_of_ne hji] at hj
      exact .inr hj
  have hkeeps : ∀ id, NotWaiting id s.store →
      NotWaiting id (markInProgress mutation.id s.store) :=
    fun id h => h.updateStatus rfl
  constructor
  · intro j k id b c hj hk
    obtain ⟨rfl, rfl, -⟩ | hj := hheldAt j id b hj
    · obtain ⟨rfl, -, -⟩ | hk := hheldAt k _ c hk
      · rfl
      · exact absurd hk (hfree k c)
    · obtain ⟨-, rfl, -⟩ | hk := hheldAt k id c hk
      · exact absurd hj (hfree j b)
      · exact hinv.single j k id b c hj hk
  · intro j id b hj
    obtain ⟨-, rfl, -⟩ | hj := hheldAt j id b hj
    · exact notWaiting_updateStatus rfl
    · exact hkeeps id (hinv.heldNotWaiting j id b hj)
  · exact fun id hid => hkeeps id (hinv.doneNotWaiting id hid)
  · intro j id hj
    obtain ⟨-, rfl, -⟩ | hj := hheldAt j id false hj
    · exact fun hdone => hnot (hinv.doneNotWaiting _ hdone)
    · exact hinv.heldNotDone j id hj
  · intro id hmem
    refine hinv.storeIssued id ?_
    rwa [← ids_updateStatus]
  · intro j id b hj
    obtain ⟨-, rfl, -⟩ | hj := hheldAt j id b hj
    · exact hinv.storeIssued _ (List.mem_map.2 ⟨entry, hentry, hid⟩)
    · exact hinv.heldIssued j id b hj
  · exact hinv.doneIssued
  · exact hinv.once

theorem Inv.succeed (hinv : Inv s) {pass : Pass} {mutation : MutationEntry} {n : Nat}
    {rest : List MutationEntry} (hphase : (s.tabs i).phase = .called pass mutation n rest) :
    Inv { s.setPhase i (.succeeded pass mutation rest) with
      done := mutation.id :: s.done } := by
  have hself : (s.tabs i).phase.held = some (mutation.id, false) := by rw [hphase]; rfl
  have hheldAt : ∀ j id b,
      ((s.setPhase i (.succeeded pass mutation rest)).tabs j).phase.held = some (id, b) →
        (j = i ∧ id = mutation.id ∧ b = true) ∨
          (j ≠ i ∧ (s.tabs j).phase.held = some (id, b)) := by
    intro j id b hj
    by_cases hji : j = i
    · subst hji
      simp only [System.setPhase, System.setTab, Function.update_self, Phase.held,
        Option.some.injEq, Prod.mk.injEq] at hj
      exact .inl ⟨rfl, hj.1.symm, hj.2.symm⟩
    · simp only [System.setPhase, System.setTab, Function.update_of_ne hji] at hj
      exact .inr ⟨hji, hj⟩
  constructor
  · intro j k id b c hafterJ hafterK
    obtain ⟨rfl, rfl, -⟩ | ⟨hji, hj⟩ := hheldAt j id b hafterJ
    · obtain ⟨rfl, -, -⟩ | ⟨hkj, hk⟩ := hheldAt k _ c hafterK
      · rfl
      · exact absurd (hinv.single k j _ c false hk hself) hkj
    · obtain ⟨rfl, rfl, -⟩ | ⟨-, hk⟩ := hheldAt k id c hafterK
      · exact absurd (hinv.single j k _ b false hj hself) hji
      · exact hinv.single j k id b c hj hk
  · intro j id b hj
    obtain ⟨-, rfl, -⟩ | ⟨-, hj⟩ := hheldAt j id b hj
    · exact hinv.heldNotWaiting i _ false hself
    · exact hinv.heldNotWaiting j id b hj
  · intro id hid
    obtain rfl | hid := List.mem_cons.1 hid
    · exact hinv.heldNotWaiting i _ false hself
    · exact hinv.doneNotWaiting id hid
  · intro j id hj
    obtain ⟨-, -, hfalse⟩ | ⟨hji, hj⟩ := hheldAt j id false hj
    · cases hfalse
    · intro hdone
      obtain rfl | hdone := List.mem_cons.1 hdone
      · exact hji (hinv.single j i _ false false hj hself)
      · exact hinv.heldNotDone j id hj hdone
  · exact hinv.storeIssued
  · intro j id b hj
    obtain ⟨-, rfl, -⟩ | ⟨-, hj⟩ := hheldAt j id b hj
    · exact hinv.heldIssued i _ false hself
    · exact hinv.heldIssued j id b hj
  · intro id hid
    obtain rfl | hid := List.mem_cons.1 hid
    · exact hinv.heldIssued i _ false hself
    · exact hinv.doneIssued id hid
  · exact hinv.once

omit [DecidableEq ι] in
theorem Inv.enqueue (hinv : Inv s) {entry : MutationEntry} (hfresh : entry.id ∉ s.issued) :
    Inv { s with store := s.store ++ [entry], issued := entry.id :: s.issued } := by
  have hkeeps : ∀ id ∈ s.issued, NotWaiting id s.store → NotWaiting id (s.store ++ [entry]) := by
    intro id hissued h other hother hid
    obtain hother | hother := List.mem_append.1 hother
    · exact h other hother hid
    · obtain rfl := List.mem_singleton.1 hother
      exact absurd (hid ▸ hissued) hfresh
  constructor
  · exact hinv.single
  · exact fun j id b hj => hkeeps id (hinv.heldIssued j id b hj) (hinv.heldNotWaiting j id b hj)
  · exact fun id hid => hkeeps id (hinv.doneIssued id hid) (hinv.doneNotWaiting id hid)
  · exact hinv.heldNotDone
  · intro id hid
    simp only [ids, List.map_append, List.mem_append, List.map_cons, List.map_nil,
      List.mem_singleton] at hid
    obtain hid | rfl := hid
    · exact List.mem_cons_of_mem _ (hinv.storeIssued id hid)
    · exact List.mem_cons_self
  · exact fun j id b hj => List.mem_cons_of_mem _ (hinv.heldIssued j id b hj)
  · exact fun id hid => List.mem_cons_of_mem _ (hinv.doneIssued id hid)
  · exact hinv.once

theorem held_sync (tab : Tab) :
    tab.sync.phase.held = none ∨ tab.sync.phase.held = tab.phase.held := by
  unfold Tab.sync
  by_cases hidle : tab.phase = .idle
  · by_cases honline : tab.online = true
    · simp [hidle, honline, Phase.held]
    · simp [hidle, honline, Tab.release, Phase.held]
  · simp [hidle]

theorem phase_scheduleSync (tab : Tab) : tab.scheduleSync.phase = tab.phase := by
  unfold Tab.scheduleSync
  by_cases h : tab.pendingSyncRequest = true
  · simp [h]
  · simp [h]

theorem phase_network (tab : Tab) (online : Bool) : (tab.network online).phase = tab.phase := by
  cases online with
  | false => rfl
  | true =>
      unfold Tab.network
      by_cases h : tab.leader = true
      · simp [h, phase_scheduleSync]
      · simp [h]

theorem phase_elected (tab : Tab) (leader : Bool) : (tab.elected leader).phase = tab.phase := by
  cases leader with
  | false => rfl
  | true => exact phase_scheduleSync _

theorem held_windUp (config : QueueConfig) (pass : Pass) :
    (windUp config pass).held = none := by
  unfold windUp
  by_cases h : config.autoCleanup = true ∧ 0 < pass.succeeded
  · rw [if_pos h]
    rfl
  · rw [if_neg h]
    rfl

theorem held_listed (config : QueueConfig) (shouldStop : Bool) (pass : Pass)
    (pending : List MutationEntry) : (listed config shouldStop pass pending).held = none := by
  unfold listed
  split_ifs
  · rfl
  · exact held_windUp config pass
  · rfl

theorem held_choose (config : QueueConfig) (shouldStop : Bool) (pass : Pass)
    (rest : List MutationEntry) : (choose config shouldStop pass rest).held = none := by
  cases rest with
  | nil => rfl
  | cons mutation rest =>
      simp only [choose, attempt]
      split_ifs <;> rfl

theorem held_attempt (config : QueueConfig) (shouldStop : Bool) (pass : Pass)
    (mutation : MutationEntry) (n : Nat) (rest : List MutationEntry) :
    (attempt config shouldStop pass mutation (n + 1) rest).held = none ∨
      (attempt config shouldStop pass mutation (n + 1) rest).held =
        some (mutation.id, false) := by
  unfold attempt
  split_ifs
  · exact .inl rfl
  · exact .inr rfl

theorem Inv.setPhase (hinv : Inv s) {phase : Phase} {store : MutationStore}
    (hheld : phase.held = none ∨ phase.held = (s.tabs i).phase.held)
    (hstore : ∀ id, NotWaiting id s.store → NotWaiting id store)
    (hids : ∀ id ∈ ids store, id ∈ ids s.store) :
    Inv { s.setPhase i phase with store := store } :=
  hinv.move hheld (fun id h => .inl (hstore id h)) fun id h => hinv.storeIssued id (hids id h)

theorem Inv.leave (hinv : Inv s) {mutation : MutationEntry} {status : MutationStatus}
    {count : Option Nat} {pass : Pass} {rest : List MutationEntry}
    (hheld : (s.tabs i).phase.held = some (mutation.id, false)) :
    Inv { s.setPhase i (.choosing pass rest) with
      store := updateStatus mutation.id status count s.store } := by
  refine hinv.move (.inl rfl) (fun id h => ?_) fun id h => ?_
  · by_cases hid : id = mutation.id
    · subst hid
      exact .inr ⟨hheld, rfl⟩
    · exact .inl (h.updateStatus_ne hid)
  · rw [ids_updateStatus] at h
    exact hinv.storeIssued id h

theorem Inv.call (hinv : Inv s) {mutation : MutationEntry} {phase : Phase}
    (hself : (s.tabs i).phase.held = some (mutation.id, false))
    (hheld : phase.held = (s.tabs i).phase.held) : Inv (s.call i mutation phase) := by
  have hnot : mutation.id ∉ s.done := hinv.heldNotDone i _ hself
  have hphase : Inv (s.setPhase i phase) := hinv.setTab (.inr hheld)
  have hsame : s.call i mutation phase = s.setPhase i phase := by
    simp only [System.call, if_neg hnot]
    rfl
  rwa [hsame]

theorem Inv.advance {config : QueueConfig} {t : System ι} (hinv : Inv s)
    (hcond : takesWaiting s (.advance i) = true) (hstep : advance config s i = some t) :
    Inv t := by
  unfold SyncEngine.advance at hstep
  cases hphase : (s.tabs i).phase with
  | idle => simp [hphase] at hstep
  | called pass mutation n rest => simp [hphase] at hstep
  | syncing =>
      simp only [hphase, Option.some.injEq] at hstep
      subst hstep
      refine hinv.move (.inl rfl) (fun _ h => .inl h.markAllPending) fun id h => ?_
      rw [ids_markAllPending] at h
      exact hinv.storeIssued id h
  | listing pass =>
      simp only [hphase, Option.some.injEq] at hstep
      subst hstep
      exact hinv.setTab (.inl (held_listed config _ pass _))
  | choosing pass rest =>
      simp only [hphase, Option.some.injEq] at hstep
      subst hstep
      exact hinv.setTab (.inl (held_choose config _ pass rest))
  | attempting pass mutation n rest =>
      simp only [hphase, Option.some.injEq] at hstep
      subst hstep
      cases n with
      | zero =>
          refine hinv.take hphase ?_
          simpa [takesWaiting, hphase, Phase.taking] using hcond
      | succ n =>
          refine hinv.setPhase (.inr ?_) (fun _ h => h.updateStatus rfl) fun id h => ?_
          · rw [hphase]
            rfl
          · rwa [markInProgress, ids_updateStatus] at h
  | marked pass mutation n rest =>
      simp only [hphase, Option.some.injEq] at hstep
      subst hstep
      have hself : (s.tabs i).phase.held = some (mutation.id, false) := by rw [hphase]; rfl
      exact hinv.call hself hself.symm
  | backingOff pass mutation n rest =>
      simp only [hphase, Option.some.injEq] at hstep
      subst hstep
      refine hinv.setTab ?_
      rw [hphase]
      exact held_attempt config _ pass mutation n rest
  | succeeded pass mutation rest =>
      simp only [hphase, Option.some.injEq] at hstep
      subst hstep
      refine hinv.setPhase (.inl rfl) (fun _ h => h.updateStatus rfl) fun id h => ?_
      rwa [markCompleted, ids_updateStatus] at h
  | requeueing pass mutation rest =>
      simp only [hphase, Option.some.injEq] at hstep
      subst hstep
      exact hinv.leave (by rw [hphase]; rfl)
  | failing pass mutation rest =>
      simp only [hphase, Option.some.injEq] at hstep
      subst hstep
      refine hinv.setTab ?_
      rw [hphase]
      cases getMutation mutation.id s.store with
      | none => exact .inl rfl
      | some entry => exact .inr rfl
  | failed pass mutation retryCount rest =>
      simp only [hphase, Option.some.injEq] at hstep
      subst hstep
      exact hinv.leave (by rw [hphase]; rfl)
  | abandoning pass pending =>
      cases pending with
      | nil =>
          simp only [hphase, Option.some.injEq] at hstep
          subst hstep
          exact hinv.setTab (.inl (held_windUp config pass))
      | cons mutation pending =>
          simp only [hphase, Option.some.injEq] at hstep
          subst hstep
          refine hinv.setPhase (.inl rfl) (fun _ h => h.updateStatus rfl) fun id h => ?_
          rwa [ids_updateStatus] at h
  | cleaning =>
      simp only [hphase, Option.some.injEq] at hstep
      subst hstep
      exact hinv.setPhase (.inl rfl) (fun _ h => h.deleteCompleted) fun id h =>
        ids_deleteCompleted h
  | releasing =>
      simp only [hphase, Option.some.injEq] at hstep
      subst hstep
      exact hinv.setTab (.inl rfl)

theorem Inv.answer {config : QueueConfig} {t : System ι} {outcome : Outcome} (hinv : Inv s)
    (hstep : answer config s i outcome = some t) : Inv t := by
  unfold SyncEngine.answer at hstep
  cases hphase : (s.tabs i).phase with
  | called pass mutation n rest =>
      simp only [hphase, Option.some.injEq] at hstep
      subst hstep
      cases outcome with
      | success => exact hinv.succeed hphase
      | failure => exact hinv.setTab (.inr (by rw [hphase]; rfl))
      | conflict => exact hinv.setTab (.inr (by rw [hphase]; rfl))
      | threw retryable =>
          refine hinv.setTab (.inr ?_)
          rw [hphase]
          simp only [executed]
          split_ifs <;> rfl
  | _ => simp [hphase] at hstep

/-- **Step.**  A step that starts on pending mutations only keeps the invariant. -/
theorem Inv.step {config : QueueConfig} {t : System ι} {a : Action ι} (hinv : Inv s)
    (hcond : takesWaiting s a = true) (hstep : step config s a = some t) : Inv t := by
  cases a with
  | enqueue entry =>
      simp only [SyncEngine.step] at hstep
      split_ifs at hstep with hfresh
      cases hstep
      exact hinv.enqueue (not_or.1 hfresh).1
  | start i =>
      simp only [SyncEngine.step] at hstep
      split_ifs at hstep
      cases hstep
      exact hinv.setTab (.inr rfl)
  | initialSync i =>
      simp only [SyncEngine.step] at hstep
      split_ifs at hstep
      · cases hstep
        exact hinv.setTab (held_sync _)
      · cases hstep
        exact hinv.setTab (.inr rfl)
  | requestSync i =>
      cases hstep
      exact hinv.setTab (held_sync _)
  | network i online =>
      cases hstep
      exact hinv.setTab (.inr (congrArg Phase.held (phase_network _ online)))
  | elected i leader =>
      cases hstep
      exact hinv.setTab (.inr (congrArg Phase.held (phase_elected _ leader)))
  | otherOnline i =>
      simp only [SyncEngine.step] at hstep
      split_ifs at hstep
      cases hstep
      exact hinv.setTab (.inr (congrArg Phase.held (phase_scheduleSync _)))
  | debounced i =>
      simp only [SyncEngine.step] at hstep
      split_ifs at hstep
      cases hstep
      exact hinv.setTab (held_sync _)
  | timer i =>
      simp only [SyncEngine.step] at hstep
      split_ifs at hstep
      · cases hstep
        exact hinv.setTab (held_sync _)
      · cases hstep
        exact hinv.setTab (.inr rfl)
  | offlineWrite i =>
      simp only [SyncEngine.step] at hstep
      split_ifs at hstep
      cases hstep
      refine hinv.move (.inr rfl) (fun _ h => .inl h.markAllOfflineQueued) fun id h => ?_
      rw [ids_markAllOfflineQueued] at h
      exact hinv.storeIssued id h
  | stop i =>
      cases hstep
      exact hinv.setTab (.inr rfl)
  | advance i => exact hinv.advance hcond hstep
  | answer i outcome => exact hinv.answer hstep

/-- The tabs before any of them has been started, with what earlier sessions have left in
the table. -/
structure Initial (s : System ι) : Prop where
  idle : ∀ i, (s.tabs i).phase = .idle
  issued : ∀ id ∈ ids s.store, id ∈ s.issued
  done : s.done = []
  again : s.again = []

omit [DecidableEq ι] in
theorem Initial.inv (h : Initial s) : Inv s := by
  have hheld : ∀ i x, (s.tabs i).phase.held ≠ some x := by
    intro i x hx
    rw [h.idle i] at hx
    cases hx
  constructor
  · exact fun i j id b c hi _ => absurd hi (hheld i _)
  · exact fun i id b hi => absurd hi (hheld i _)
  · rw [h.done]
    exact fun id hid => absurd hid List.not_mem_nil
  · exact fun i id hi => absurd hi (hheld i _)
  · exact h.issued
  · exact fun i id b hi => absurd hi (hheld i _)
  · rw [h.done]
    exact fun id hid => absurd hid List.not_mem_nil
  · exact h.again

end Steps

/-- Two tabs that are online, with a mutation that an earlier session has left. -/
def twoTabs : System Bool where
  store := [⟨"m", 1, .offlineQueued, 0, []⟩]
  tabs := fun _ => { online := true }
  issued := ["m"]

theorem initial_twoTabs : Initial twoTabs where
  idle := fun _ => rfl
  issued := by decide
  done := rfl
  again := rfl

/-- The operations of a tab that synchronizes alone. -/
def alone (tab : Bool) : List (Action Bool) :=
  [.start tab, .initialSync tab] ++ List.replicate 5 (.advance tab) ++
    [.answer tab .success] ++ List.replicate 5 (.advance tab)

/-- A tab that is started after another has finished. -/
def oneAfterTheOther : List (Action Bool) :=
  alone false ++ [.start true, .initialSync true, .advance true, .advance true, .advance true]

/-- Both tabs read the list of pending mutations before one of them starts on it. -/
def bothAtOnce : List (Action Bool) :=
  [.start false, .start true, .initialSync false, .initialSync true,
    .advance false, .advance false, .advance true, .advance true,
    .advance false, .advance false, .advance false, .answer false .success,
    .advance true, .advance true, .advance true]

end SyncEngine

end Zentra
