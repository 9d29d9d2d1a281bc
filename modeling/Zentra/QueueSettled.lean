import Zentra.QueueRuns

/-!
# Mutations in progress at the end of a run

A mutation is marked before each attempt at it, and gets another status when the attempt
is over, except when the attempt is to be repeated.

* `settled_of_settles` — if all steps do, no run leaves a mutation in progress that it has
  marked;
* `stopped_strands` — a stop during the pause between two attempts.
-/

open StepTrace TableRows

namespace Zentra

namespace SyncEngine

/-- The mutation that is worked on, from the time it is marked. -/
def Phase.working : Phase → Option String
  | .attempting _ mutation (_ + 1) _ => some mutation.id
  | .marked _ mutation _ _ => some mutation.id
  | .called _ mutation _ _ => some mutation.id
  | .backingOff _ mutation _ _ => some mutation.id
  | .succeeded _ mutation _ => some mutation.id
  | .requeueing _ mutation _ => some mutation.id
  | .failing _ mutation _ => some mutation.id
  | .failed _ mutation _ _ => some mutation.id
  | _ => none

/-- The mutation that is to be tried again. -/
def Phase.sleeping : Phase → Option String
  | .backingOff _ mutation _ _ => some mutation.id
  | _ => none

namespace QueueRuns

/-- The table has the mutation as one in progress. -/
def InProgress (id : String) (store : MutationStore) : Prop :=
  ∃ entry ∈ store, entry.id = id ∧ entry.status = .inProgress

instance (id : String) (store : MutationStore) : Decidable (InProgress id store) :=
  inferInstanceAs (Decidable (∃ entry ∈ store, _))

/-- At the end of a run no mutation that it has marked is in progress. -/
def Settled (p : Processor) : Prop :=
  p.phase = .idle → ∀ id ∈ p.touched, ¬ InProgress id p.store

instance (p : Processor) : Decidable (Settled p) := inferInstanceAs (Decidable (_ → _))

/-- **The condition.** The processor is not told to stop, and neither `isRetryable` nor
`onRetry` throws, between two attempts at a mutation that is in progress. -/
def Settles (p : Processor) : Event → Prop
  | .advance => p.shouldStop = true → ∀ id ∈ p.phase.sleeping, ¬ InProgress id p.store
  | .escape => ∀ id ∈ p.phase.working, ¬ InProgress id p.store
  | _ => True

instance (p : Processor) : ∀ event, Decidable (Settles p event)
  | .advance => inferInstanceAs (Decidable (_ → _))
  | .escape => inferInstanceAs (Decidable (∀ id ∈ p.phase.working, _))
  | .process => .isTrue trivial
  | .answer _ => .isTrue trivial
  | .throws _ => .isTrue trivial
  | .stop => .isTrue trivial
  | .dispose => .isTrue trivial
  | .enqueue _ => .isTrue trivial

/-- The mutations in progress among those that have been marked. -/
def Held (working : Option String) (touched : List String) (store : MutationStore) : Prop :=
  ∀ id ∈ touched, InProgress id store → working = some id

section Held

variable {working other : Option String} {touched : List String} {store : MutationStore}
  {id : String} {status : MutationStatus} {retryCount : Option Nat}

theorem Held.weaken (h : Held none touched store) : Held working touched store :=
  fun id hmem hprogress => absurd (h id hmem hprogress) (by simp)

theorem inProgress_updateStatus (hstatus : status ≠ .inProgress) {other : String} :
    InProgress other (updateStatus id status retryCount store) →
      InProgress other store ∧ other ≠ id := by
  intro hprogress
  obtain ⟨entry, hentry, hid, hin⟩ := hprogress
  rcases mem_updateStatus hentry with ⟨hold, hne⟩ | ⟨heq, -⟩
  · exact ⟨⟨entry, hold, hid, hin⟩, hid ▸ hne⟩
  · exact absurd (heq.symm.trans hin) hstatus

theorem Held.settle (h : Held (some id) touched store) (hstatus : status ≠ .inProgress) :
    Held none touched (updateStatus id status retryCount store) := by
  intro other hmem hprogress
  obtain ⟨hold, hne⟩ := inProgress_updateStatus hstatus hprogress
  exact absurd (Option.some.inj (h other hmem hold)).symm hne

theorem Held.update (h : Held none touched store) (hstatus : status ≠ .inProgress) :
    Held none touched (updateStatus id status retryCount store) :=
  fun other hmem hprogress => h other hmem (inProgress_updateStatus hstatus hprogress).1

/-- A mutation is marked while no other one is in progress. -/
theorem Held.mark (h : Held working touched store) (hworking : ∀ other ∈ working, other = id) :
    Held (some id) (id :: touched) (markInProgress id store) := by
  intro other hmem hprogress
  by_cases hother : other = id
  · rw [hother]
  · obtain ⟨entry, hentry, hid, hin⟩ := hprogress
    rcases mem_updateStatus hentry with ⟨hold, -⟩ | ⟨-, hsame⟩
    · have hmarked := (List.mem_cons.1 hmem).resolve_left hother
      have hheld := h other hmarked ⟨entry, hold, hid, hin⟩
      exact absurd (hworking other hheld) hother
    · exact absurd (hid.symm.trans hsame) hother

theorem Held.given_up (h : Held (some id) touched store) (hnot : ¬ InProgress id store) :
    Held none touched store := by
  intro other hmem hprogress
  have hsame : id = other := Option.some.inj (h other hmem hprogress)
  exact absurd (hsame ▸ hprogress) hnot

theorem Held.append (h : Held working touched store) {entry : MutationEntry}
    (hstatus : entry.status ≠ .inProgress) : Held working touched (store ++ [entry]) := by
  intro id hmem hprogress
  obtain ⟨found, hfound, hid, hin⟩ := hprogress
  rcases List.mem_append.1 hfound with hold | hnew
  · exact h id hmem ⟨found, hold, hid, hin⟩
  · rw [List.mem_singleton.1 hnew] at hin
    exact absurd hin hstatus

theorem Held.select (h : Held working touched store) {p : MutationEntry → Prop}
    [DecidablePred p] : Held working touched (TableRows.select p store) := by
  intro id hmem hprogress
  obtain ⟨entry, hentry, hid, hin⟩ := hprogress
  exact h id hmem ⟨entry, (mem_select.1 hentry).1, hid, hin⟩

end Held

theorem failedStatus_ne (config : QueueConfig) (retryCount : Nat) :
    failedStatus config retryCount ≠ .inProgress := by
  unfold failedStatus
  split <;> simp

/-- The mutation is to be tried again only if attempts are left. -/
def MayRetry (config : QueueConfig) : Phase → Prop
  | .backingOff _ _ n _ => n + 1 < config.maxAttempts
  | _ => True

/-- At the phase nothing is worked on. -/
def Calm (config : QueueConfig) (phase : Phase) : Prop :=
  phase.working = none ∧ MayRetry config phase

section Phases

variable {config : QueueConfig} {shouldStop : Bool} {pass : Pass} {mutation : MutationEntry}
  {n : Nat} {rest : List MutationEntry}

theorem calm_windUp : Calm config (windUp config pass) := by
  rcases windUp_cases config pass with heq | heq <;> exact heq ▸ ⟨rfl, trivial⟩

theorem calm_listed {pending : List MutationEntry} :
    Calm config (listed config shouldStop pass pending) := by
  rcases listed_cases config shouldStop pass pending with
    ⟨-, -, -, heq⟩ | ⟨-, heq⟩ | ⟨-, -, -, heq⟩
  · exact heq ▸ ⟨rfl, trivial⟩
  · exact heq ▸ calm_windUp
  · exact heq ▸ ⟨rfl, trivial⟩

theorem calm_attempt_zero : Calm config (attempt config shouldStop pass mutation 0 rest) := by
  rcases attempt_cases config shouldStop pass mutation 0 rest with ⟨-, heq⟩ | ⟨-, -, heq⟩
  · exact heq ▸ ⟨rfl, trivial⟩
  · exact heq ▸ ⟨rfl, trivial⟩

theorem calm_choose : Calm config (choose config shouldStop pass rest) := by
  cases rest with
  | nil => exact ⟨rfl, trivial⟩
  | cons mutation rest =>
      rcases choose_cases config shouldStop pass mutation rest with
        ⟨-, heq⟩ | ⟨-, -, heq⟩ | ⟨-, -, heq⟩
      · exact heq ▸ ⟨rfl, trivial⟩
      · exact heq ▸ ⟨rfl, trivial⟩
      · exact heq ▸ calm_attempt_zero

theorem working_executed {outcome : Outcome} :
    (executed config pass mutation n rest outcome).working = some mutation.id ∧
      MayRetry config (executed config pass mutation n rest outcome) := by
  cases outcome with
  | success => exact ⟨rfl, trivial⟩
  | failure => exact ⟨rfl, trivial⟩
  | conflict => exact ⟨rfl, trivial⟩
  | threw retryable =>
      rcases threw_cases config pass mutation n rest retryable with heq | ⟨hmore, heq⟩
      · exact heq ▸ ⟨rfl, trivial⟩
      · exact heq ▸ ⟨rfl, hmore⟩

end Phases

/-- Only the mutation that is worked on is in progress, among those the run has marked. -/
structure Settling (config : QueueConfig) (p : Processor) : Prop where
  held : Held p.phase.working p.touched p.store
  mayRetry : MayRetry config p.phase

variable {config : QueueConfig} {p q : Processor}

theorem Settling.advance (h : Settling config p) (hsettles : Settles p .advance)
    (hstep : advance config p = some q) : Settling config q := by
  obtain ⟨hheld, hretry⟩ := h
  unfold QueueRuns.advance at hstep
  unfold Settles at hsettles
  generalize hphase : p.phase = phase at hstep
  cases phase with
  | idle => cases hstep
  | syncing => cases hstep
  | called pass mutation n rest => cases hstep
  | listing pass =>
      rw [hphase] at hheld
      cases hstep
      exact ⟨Held.weaken hheld, calm_listed.2⟩
  | choosing pass rest =>
      rw [hphase] at hheld
      cases hstep
      exact ⟨Held.weaken hheld, calm_choose.2⟩
  | attempting pass mutation n rest =>
      rw [hphase] at hheld
      cases hstep
      refine ⟨hheld.mark ?_, trivial⟩
      intro other hother
      cases n with
      | zero => cases hother
      | succ n => exact (Option.some.inj hother).symm
  | marked pass mutation n rest =>
      rw [hphase] at hheld
      cases hstep
      exact ⟨hheld, trivial⟩
  | backingOff pass mutation n rest =>
      rw [hphase] at hheld hretry hsettles
      cases hstep
      rcases attempt_cases config p.shouldStop pass mutation (n + 1) rest with
        ⟨hend, heq⟩ | ⟨-, -, heq⟩
      · refine ⟨Held.weaken (hheld.given_up ?_), heq ▸ trivial⟩
        rcases hend with hnomore | hstop
        · have hlt : n + 1 < config.maxAttempts := hretry
          omega
        · exact hsettles hstop mutation.id rfl
      · refine ⟨?_, heq ▸ trivial⟩
        rw [heq]
        exact hheld
  | succeeded pass mutation rest =>
      rw [hphase] at hheld
      cases hstep
      exact ⟨hheld.settle (by simp), trivial⟩
  | requeueing pass mutation rest =>
      rw [hphase] at hheld
      cases hstep
      exact ⟨hheld.settle (by simp), trivial⟩
  | failing pass mutation rest =>
      rw [hphase] at hheld
      cases hstep
      cases hfound : getMutation mutation.id p.store with
      | some entry => exact ⟨hheld, trivial⟩
      | none =>
          -- a mutation that is not in the table is not in progress there
          refine ⟨hheld.given_up ?_, trivial⟩
          intro hprogress
          obtain ⟨entry, hentry, hid, -⟩ := hprogress
          have hnone := List.find?_eq_none.1 hfound entry hentry
          exact hnone (by simpa using hid)
  | failed pass mutation retryCount rest =>
      rw [hphase] at hheld
      cases hstep
      exact ⟨hheld.settle (failedStatus_ne config retryCount), trivial⟩
  | abandoning pass pending =>
      rw [hphase] at hheld
      cases pending with
      | nil =>
          cases hstep
          exact ⟨Held.weaken hheld, calm_windUp.2⟩
      | cons mutation pending =>
          cases hstep
          exact ⟨Held.update hheld (by simp), trivial⟩
  | cleaning =>
      rw [hphase] at hheld
      cases hstep
      exact ⟨Held.select hheld, trivial⟩
  | releasing =>
      rw [hphase] at hheld
      cases hstep
      exact ⟨hheld, trivial⟩

/-- After the callback of an operation that has given the mutation another status. -/
theorem Settling.caught {store : MutationStore} {pass : Pass} {mutation : MutationEntry}
    {n : Nat} {rest : List MutationEntry} {retryable : Option Bool}
    (h : Held none p.touched store) (htouched : q.touched = p.touched) (hstore : q.store = store)
    (hphase : q.phase = QueueRuns.caught config pass mutation n rest retryable) :
    Settling config q := by
  refine ⟨?_, ?_⟩
  · rw [htouched, hstore]
    exact h.weaken
  · rw [hphase]
    cases retryable with
    | none => trivial
    | some retryable => exact (@working_executed config pass mutation n rest (.threw retryable)).2

theorem Settling.throws (h : Settling config p) {retryable : Option Bool}
    (hstep : throws config p retryable = some q) : Settling config q := by
  have hheld := h.held
  rcases throws_cases hstep with ⟨pass, mutation, rest, n, hphase, -, rfl⟩ |
    ⟨pass, mutation, retryCount, rest, hphase, hthrown⟩ | ⟨pass, mutation, pending, hphase, rfl⟩
  · rw [hphase] at hheld
    exact Settling.caught (hheld.settle (by simp)) rfl rfl rfl
  · rw [hphase] at hheld
    have hsettled := @Held.settle _ _ _ (failedStatus config retryCount) (some retryCount) hheld
      (failedStatus_ne config retryCount)
    rcases hthrown with ⟨n, -, rfl⟩ | ⟨-, rfl⟩
    · exact Settling.caught hsettled rfl rfl rfl
    · exact ⟨hsettled, trivial⟩
  · rw [hphase] at hheld
    exact ⟨Held.update hheld (by simp), trivial⟩

/-- **One step** that does not leave the mutation at hand. -/
theorem Settling.step (h : Settling config p) {event : Event} (hsettles : Settles p event)
    (hstep : step config p event = some q) : Settling config q := by
  cases event with
  | advance => exact h.advance hsettles hstep
  | throws retryable => exact h.throws hstep
  | process =>
      obtain rfl := Option.some.inj hstep
      unfold process
      by_cases hbusy : p.phase ≠ .idle ∨ p.disposed = true
      · rw [if_pos hbusy]
        exact h
      · rw [if_neg hbusy]
        exact ⟨fun id hmem => absurd hmem List.not_mem_nil, trivial⟩
  | answer outcome =>
      obtain ⟨pass, mutation, n, rest, hphase, rfl⟩ := answer_cases hstep
      obtain ⟨hworking, hmay⟩ := @working_executed config pass mutation n rest outcome
      refine ⟨?_, hmay⟩
      have hheld := h.held
      rw [hphase] at hheld
      show Held (executed config pass mutation n rest outcome).working p.touched p.store
      rw [hworking]
      exact hheld
  | escape =>
      obtain ⟨pass, mutation, n, rest, hphase, rfl⟩ := escape_cases hstep
      have hworking : p.phase.working = some mutation.id := by
        rcases hphase with hphase | hphase <;> rw [hphase] <;> rfl
      have hheld := h.held
      rw [hworking] at hheld
      exact ⟨hheld.given_up (hsettles mutation.id hworking), trivial⟩
  | stop =>
      obtain rfl := Option.some.inj hstep
      exact ⟨h.held, h.mayRetry⟩
  | dispose =>
      obtain rfl := Option.some.inj hstep
      exact ⟨h.held, h.mayRetry⟩
  | enqueue entry =>
      unfold QueueRuns.step at hstep
      by_cases hbad : entry.id ∈ p.issued ∨ entry.status ≠ .pending ∨ entry.retryCount ≠ 0
      · simp [hbad] at hstep
      · simp only [if_neg hbad, Option.some.injEq] at hstep
        subst hstep
        have hstatus : entry.status = .pending := by
          by_contra hne
          exact hbad (.inr (.inl hne))
        exact ⟨h.held.append (by simp [hstatus]), h.mayRetry⟩

/-- **Nothing is stranded.** If no run is told to stop, and none is ended by an exception of
a callback, while it pauses before another attempt, no run leaves a mutation in progress. -/
theorem settled_of_settles (config : QueueConfig) (store : MutationStore)
    (events : List Event) (h : Allowed (step config) Settles (Processor.new store) events) :
    Always (step config) Settled (Processor.new store) events := by
  apply always_of_allowed (Settling config) ?_ (fun p event q hinv hsettles hstep =>
    Settling.step hinv hsettles hstep) events (Processor.new store) _ h
  · intro p hinv hidle id hmem hprogress
    have hheld := hinv.held id hmem hprogress
    rw [hidle] at hheld
    cases hheld
  · exact ⟨fun id hmem => absurd hmem List.not_mem_nil, trivial⟩

/-- A mutation whose first attempt throws and whose second succeeds; the stop comes during
the second attempt. -/
def retried : List Event :=
  [.process, .advance, .advance, .advance, .advance, .answer (.threw true), .advance, .advance,
    .advance, .stop, .answer .success, .advance, .advance, .advance, .advance]

theorem retried_settled :
    Allowed (step {}) Settles (Processor.new [⟨"a", 1, .pending, 0, []⟩]) retried ∧
      Always (step {}) Settled (Processor.new [⟨"a", 1, .pending, 0, []⟩]) retried :=
  ⟨by decide, settled_of_settles {} _ retried (by decide)⟩

/-- The stop comes during the pause after the first attempt. -/
def stopped : List Event :=
  [.process, .advance, .advance, .advance, .advance, .answer (.threw true), .stop, .advance,
    .advance, .advance, .advance]

theorem stopped_strands :
    ∃ p, Exec (step {}) (Processor.new [⟨"a", 1, .pending, 0, []⟩]) stopped p ∧
      p.phase = .idle ∧ p.touched = ["a"] ∧ ¬ Settled p :=
  exists_exec (by decide)

end QueueRuns

end SyncEngine

end Zentra
