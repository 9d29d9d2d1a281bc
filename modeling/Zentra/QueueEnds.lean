import Mathlib.Algebra.BigOperators.Group.List.Basic
import Mathlib.Algebra.GroupWithZero.Nat
import Mathlib.Algebra.Order.BigOperators.Group.List
import Mathlib.Algebra.Order.Group.Nat
import Zentra.QueueSettled

/-!
# How long a run of the processor takes

A mutation goes back to the pending ones when an attempt has failed or a conflict was
resolved.  Its retry count grows each time; a failure is final at the limit, a conflict is
not.

* `ends_of_counted` — if no conflict is resolved at the limit, a run ends, and hands no
  mutation to the executor more than `maxAttempts * maxRetries` times;
* `conflicts_do_not_end` — a server that reports a conflict each time.
-/

open StepTrace TableRows

namespace Zentra

namespace SyncEngine

namespace QueueRuns

section Budget

variable (config : QueueConfig)

/-- How often a pending mutation can still be taken up. -/
def budget (entry : MutationEntry) : Nat := max 1 (config.maxRetries - entry.retryCount)

/-- The same for an entry of the table, which need not be pending. -/
def weight (entry : MutationEntry) : Nat := if entry.status.waiting then budget config entry else 0

def weightBut (id : String) (entry : MutationEntry) : Nat :=
  if entry.id = id then 0 else weight config entry

def total (store : MutationStore) : Nat := (store.map (weight config)).sum

def totalBut (id : String) (store : MutationStore) : Nat := (store.map (weightBut config id)).sum

variable {config} {store : MutationStore} {id : String}

theorem one_le_budget (entry : MutationEntry) : 1 ≤ budget config entry := le_max_left _ _

theorem budget_le (hretries : 1 ≤ config.maxRetries) (entry : MutationEntry) :
    budget config entry ≤ config.maxRetries := by
  unfold budget
  omega

/-- A mutation that comes back with a higher retry count below the limit. -/
theorem budget_lt {entry mutation : MutationEntry} (hmore : mutation.retryCount < entry.retryCount)
    (hlimit : entry.retryCount < config.maxRetries) :
    budget config entry + 1 ≤ budget config mutation := by
  unfold budget
  omega

theorem totalBut_le : totalBut config id store ≤ total config store := by
  apply List.sum_le_sum
  intro entry _
  unfold weightBut
  split
  · exact Nat.zero_le _
  · exact le_rfl

theorem totalBut_add_le {mutation : MutationEntry} (hmem : mutation ∈ store) :
    totalBut config mutation.id store + weight config mutation ≤ total config store := by
  induction store with
  | nil => cases hmem
  | cons entry store ih =>
      unfold totalBut total
      rw [List.map_cons, List.map_cons, List.sum_cons, List.sum_cons]
      rcases List.mem_cons.1 hmem with hhead | htail
      · have hrest := @totalBut_le config store mutation.id
        unfold totalBut total at hrest
        subst hhead
        have hzero : weightBut config mutation.id mutation = 0 := if_pos rfl
        omega
      · have hrest := ih htail
        unfold totalBut total at hrest
        have hle : weightBut config mutation.id entry ≤ weight config entry := by
          unfold weightBut
          split
          · exact Nat.zero_le _
          · exact le_rfl
        omega

theorem total_le_add (hnodup : (ids store).Nodup) {bound : Nat}
    (h : ∀ entry ∈ store, entry.id = id → weight config entry ≤ bound) :
    total config store ≤ totalBut config id store + bound := by
  induction store with
  | nil => exact Nat.zero_le _
  | cons entry store ih =>
      obtain ⟨hfirst, hrest⟩ := List.nodup_cons.1 hnodup
      unfold totalBut total
      rw [List.map_cons, List.map_cons, List.sum_cons, List.sum_cons]
      by_cases hid : entry.id = id
      · have hothers : store.map (weight config) = store.map (weightBut config id) := by
          apply List.map_congr_left
          intro other hother
          have hne : other.id ≠ id := by
            intro heq
            apply hfirst
            rw [hid, ← heq]
            exact List.mem_map_of_mem hother
          exact (if_neg hne).symm
        have hhead := h entry List.mem_cons_self hid
        have hzero : weightBut config id entry = 0 := if_pos hid
        rw [hothers]
        omega
      · have htail := ih hrest fun other hother => h other (List.mem_cons_of_mem entry hother)
        unfold totalBut total at htail
        have hsame : weightBut config id entry = weight config entry := if_neg hid
        omega

theorem totalBut_updateStatus {status : MutationStatus} {retryCount : Option Nat} :
    totalBut config id (updateStatus id status retryCount store) =
      totalBut config id store := by
  unfold totalBut updateStatus TableRows.update
  rw [List.map_map]
  congr 1
  apply List.map_congr_left
  intro entry _
  by_cases hid : entry.id = id
  · simp [weightBut, hid]
  · simp [weightBut, hid]

theorem length_updateStatus {status : MutationStatus} {retryCount : Option Nat} :
    (updateStatus id status retryCount store).length = store.length :=
  List.length_map _

end Budget

/-- The attempts that are numbered at a phase. -/
def Tracks (config : QueueConfig) (trying : Option Nat) : Phase → Prop
  | .attempting _ _ n _ => n < config.maxAttempts
  | .marked _ _ n _ => n < config.maxAttempts ∧ trying = some n
  | .called _ _ n _ => n < config.maxAttempts ∧ trying = some n
  | .backingOff _ _ n _ => n + 1 < config.maxAttempts
  | .succeeded _ _ _ => ∀ n ∈ trying, n < config.maxAttempts
  | .requeueing _ mutation _ => mutation.retryCount + 1 < config.maxRetries
  | .failing _ _ _ => ∀ n ∈ trying, n < config.maxAttempts
  | .failed _ mutation retryCount _ =>
      (∀ n ∈ trying, n < config.maxAttempts) ∧ mutation.retryCount < retryCount
  | .syncing => False
  | _ => True

/-- How many attempts a try at the mutation at hand leaves. -/
def leftAfter (config : QueueConfig) : Option Nat → Nat
  | some n => config.maxAttempts - n - 1
  | none => 0

/-- How many times the executor can still be called with the mutation at hand, before the
mutation is taken up again. -/
def attemptsLeft (config : QueueConfig) (trying : Option Nat) : Phase → Nat
  | .attempting _ _ n _ => config.maxAttempts - n
  | .marked _ _ n _ => config.maxAttempts - n
  | .called _ _ n _ => config.maxAttempts - n - 1
  | .backingOff _ _ n _ => config.maxAttempts - n - 1
  | .succeeded _ _ _ => leftAfter config trying
  | .failing _ _ _ => leftAfter config trying
  | .failed _ _ _ _ => leftAfter config trying
  | _ => 0

/-- A mutation that has been taken up is in the table with its retry count or a higher one,
and is pending there only with a higher one. -/
def TakenUp (config : QueueConfig) (started : Bool) (store : MutationStore)
    (mutation : MutationEntry) : Prop :=
  ∀ entry ∈ store, entry.id = mutation.id → mutation.retryCount ≤ entry.retryCount ∧
    (started = true → entry.status.waiting = true →
      mutation.retryCount < entry.retryCount ∧ entry.retryCount < config.maxRetries)

/-- What the calls so far and the retry counts come to. -/
structure Counting (config : QueueConfig) (p : Processor) : Prop extends Batched p where
  tracks : Tracks config p.trying p.phase
  takenUp : ∀ mutation ∈ p.phase.current,
    TakenUp config p.phase.working.isSome p.store mutation
  calls : ∀ id, p.calls.count id ≤ config.maxAttempts * config.maxRetries
  pending : ∀ entry ∈ p.store, entry.status.waiting = true →
    (∀ mutation ∈ p.phase.current, entry.id ≠ mutation.id) →
      p.calls.count entry.id + config.maxAttempts * budget config entry ≤
        config.maxAttempts * config.maxRetries
  atHand : ∀ mutation ∈ p.phase.current,
    p.calls.count mutation.id + config.maxAttempts * (budget config mutation - 1) +
      attemptsLeft config p.trying p.phase ≤ config.maxAttempts * config.maxRetries

/-- The calls of one run: nothing is queued meanwhile, and no other run begins. -/
def OneRun (p : Processor) : Event → Prop
  | .process => p.phase ≠ .idle
  | .enqueue _ => False
  | _ => True

instance (p : Processor) : ∀ event, Decidable (OneRun p event)
  | .process => inferInstanceAs (Decidable (_ ≠ _))
  | .enqueue _ => .isFalse id
  | .advance => .isTrue trivial
  | .answer _ => .isTrue trivial
  | .throws _ => .isTrue trivial
  | .escape => .isTrue trivial
  | .stop => .isTrue trivial
  | .dispose => .isTrue trivial

/-- **The condition.** A conflict is reported only for a mutation that may be retried once
more. -/
def Counted (config : QueueConfig) (p : Processor) : Event → Prop
  | .answer .conflict => ∀ mutation ∈ p.phase.current, mutation.retryCount + 1 < config.maxRetries
  | _ => True

instance (config : QueueConfig) (p : Processor) : ∀ event, Decidable (Counted config p event)
  | .answer .conflict => inferInstanceAs (Decidable (∀ mutation ∈ p.phase.current, _))
  | .answer .success => .isTrue trivial
  | .answer .failure => .isTrue trivial
  | .answer (.threw _) => .isTrue trivial
  | .process => .isTrue trivial
  | .enqueue _ => .isTrue trivial
  | .advance => .isTrue trivial
  | .throws _ => .isTrue trivial
  | .escape => .isTrue trivial
  | .stop => .isTrue trivial
  | .dispose => .isTrue trivial

section Counting

variable {config : QueueConfig} {p q : Processor} {mutation entry : MutationEntry}

theorem Counting.free (h : Counting config p) (hbatched : Batched q)
    (htracks : Tracks config q.trying q.phase) (hbefore : p.phase.current = none)
    (hafter : q.phase.current = none) (hcalls : q.calls = p.calls)
    (hstore : ∀ entry ∈ q.store, entry.status.waiting = true → entry ∈ p.store) :
    Counting config q := by
  refine ⟨hbatched, htracks, ?_, ?_, ?_, ?_⟩
  · rw [hafter]
    exact fun _ hmem => by cases hmem
  · rw [hcalls]
    exact h.calls
  · intro entry hmem hwaiting _
    rw [hcalls]
    exact h.pending entry (hstore entry hmem hwaiting) hwaiting
      (by rw [hbefore]; exact fun _ hnone => by cases hnone)
  · rw [hafter]
    exact fun _ hmem => by cases hmem

theorem Counting.keep (h : Counting config p) (hbatched : Batched q)
    (htracks : Tracks config q.trying q.phase) (hbefore : p.phase.current = some mutation)
    (hafter : q.phase.current = some mutation) (hcalls : q.calls = p.calls)
    (hleft : attemptsLeft config q.trying q.phase ≤ attemptsLeft config p.trying p.phase)
    (hstore : ∀ entry ∈ q.store, entry.id ≠ mutation.id → entry ∈ p.store)
    (htaken : TakenUp config q.phase.working.isSome q.store mutation) : Counting config q := by
  refine ⟨hbatched, htracks, ?_, ?_, ?_, ?_⟩
  · rw [hafter]
    intro other hother
    obtain rfl : mutation = other := Option.some.inj hother
    exact htaken
  · rw [hcalls]
    exact h.calls
  · intro entry hmem hwaiting hother
    rw [hafter] at hother
    have hne := hother mutation rfl
    rw [hcalls]
    refine h.pending entry (hstore entry hmem hne) hwaiting ?_
    rw [hbefore]
    intro other hsame
    obtain rfl : mutation = other := Option.some.inj hsame
    exact hne
  · rw [hafter, hcalls]
    intro other hother
    obtain rfl : mutation = other := Option.some.inj hother
    have hbound := h.atHand mutation hbefore
    omega

/-- The mutation at hand is let go: it is not pending, or it has less budget. -/
theorem Counting.release (h : Counting config p) (hbatched : Batched q)
    (htracks : Tracks config q.trying q.phase) (hbefore : p.phase.current = some mutation)
    (hafter : q.phase.current = none) (hcalls : q.calls = p.calls)
    (hstore : ∀ entry ∈ q.store, entry.status.waiting = true →
      (entry ∈ p.store ∧ entry.id ≠ mutation.id) ∨
        (entry.id = mutation.id ∧ budget config entry + 1 ≤ budget config mutation)) :
    Counting config q := by
  refine ⟨hbatched, htracks, ?_, ?_, ?_, ?_⟩
  · rw [hafter]
    exact fun _ hmem => by cases hmem
  · rw [hcalls]
    exact h.calls
  · intro entry hmem hwaiting _
    rw [hcalls]
    rcases hstore entry hmem hwaiting with ⟨hold, hne⟩ | ⟨hid, hbudget⟩
    · refine h.pending entry hold hwaiting ?_
      rw [hbefore]
      intro other hsame
      obtain rfl : mutation = other := Option.some.inj hsame
      exact hne
    · have hbound := h.atHand mutation hbefore
      have hle : config.maxAttempts * budget config entry ≤
          config.maxAttempts * (budget config mutation - 1) :=
        Nat.mul_le_mul_left _ (by omega)
      rw [hid]
      omega
  · rw [hafter]
    exact fun _ hmem => by cases hmem

theorem TakenUp.release {store : MutationStore} (h : TakenUp config true store mutation) :
    ∀ entry ∈ store, entry.status.waiting = true →
      (entry ∈ store ∧ entry.id ≠ mutation.id) ∨
        (entry.id = mutation.id ∧ budget config entry + 1 ≤ budget config mutation) := by
  intro entry hmem hwaiting
  by_cases hid : entry.id = mutation.id
  · obtain ⟨hmore, hlimit⟩ := (h entry hmem hid).2 rfl hwaiting
    exact .inr ⟨hid, budget_lt hmore hlimit⟩
  · exact .inl ⟨hmem, hid⟩

theorem TakenUp.updateStatus {store : MutationStore} {started : Bool}
    (h : TakenUp config started store mutation) {status : MutationStatus}
    {retryCount : Option Nat}
    (hcount : ∀ count ∈ retryCount, mutation.retryCount ≤ count)
    (hstatus : status.waiting = true → ∃ count, retryCount = some count ∧
      mutation.retryCount < count ∧ count < config.maxRetries) :
    TakenUp config true (updateStatus mutation.id status retryCount store) mutation := by
  intro entry hmem hid
  rcases mem_updateStatus_cases hmem with ⟨-, hne⟩ | ⟨-, hnew, old, hold, holdid, hretry⟩
  · exact absurd hid hne
  · refine ⟨?_, ?_⟩
    · rw [hretry]
      cases retryCount with
      | none => exact (h old hold holdid).1
      | some count => exact hcount count rfl
    · intro _ hwaiting
      rw [hnew] at hwaiting
      obtain ⟨count, rfl, hmore, hlimit⟩ := hstatus hwaiting
      rw [hretry]
      exact ⟨hmore, hlimit⟩

theorem failedStatus_waiting {retryCount : Nat}
    (h : (failedStatus config retryCount).waiting = true) : retryCount < config.maxRetries := by
  unfold failedStatus at h
  by_cases hlimit : config.maxRetries ≤ retryCount
  · rw [if_pos hlimit] at h
    cases h
  · exact Nat.not_le.1 hlimit

/-- **Taking up** a pending mutation. -/
theorem Counting.take (h : Counting config p) (hbatched : Batched q) {pass : Pass}
    {rest : List MutationEntry} (hbefore : p.phase.current = none)
    (hafter : q.phase = .attempting pass mutation 0 rest) (hmore : 0 < config.maxAttempts)
    (hmem : mutation ∈ p.store) (hwaiting : mutation.status.waiting = true)
    (hstore : q.store = p.store) (hcalls : q.calls = p.calls) : Counting config q := by
  have hbound := h.pending mutation hmem hwaiting
    (by rw [hbefore]; exact fun _ hnone => by cases hnone)
  refine ⟨hbatched, ?_, ?_, ?_, ?_, ?_⟩
  · rw [hafter]
    exact hmore
  · rw [hafter, hstore]
    intro other hother entry hentry hid
    obtain rfl : mutation = other := Option.some.inj hother
    obtain rfl := eq_of_id h.nodup hentry hmem hid
    exact ⟨le_rfl, fun hstarted => by cases hstarted⟩
  · rw [hcalls]
    exact h.calls
  · intro entry hentry hpending _
    rw [hcalls]
    rw [hstore] at hentry
    exact h.pending entry hentry hpending
      (by rw [hbefore]; exact fun _ hnone => by cases hnone)
  · rw [hafter, hcalls]
    intro other hother
    obtain rfl : mutation = other := Option.some.inj hother
    have hone := @one_le_budget config mutation
    have hsplit : config.maxAttempts * budget config mutation =
        config.maxAttempts * (budget config mutation - 1) + config.maxAttempts := by
      obtain ⟨less, hless⟩ := Nat.exists_eq_add_of_le' hone
      rw [hless, Nat.add_sub_cancel, Nat.mul_succ]
    show _ + _ + (config.maxAttempts - 0) ≤ _
    omega

theorem tracks_windUp {trying : Option Nat} {pass : Pass} :
    Tracks config trying (windUp config pass) ∧ (windUp config pass).current = none := by
  rcases windUp_cases config pass with heq | heq <;> exact heq ▸ ⟨trivial, rfl⟩

theorem tracks_listed {trying : Option Nat} {shouldStop : Bool} {pass : Pass}
    {pending : List MutationEntry} :
    Tracks config trying (listed config shouldStop pass pending) ∧
      (listed config shouldStop pass pending).current = none := by
  rcases listed_cases config shouldStop pass pending with
    ⟨-, -, -, heq⟩ | ⟨-, heq⟩ | ⟨-, -, -, heq⟩
  · exact heq ▸ ⟨trivial, rfl⟩
  · exact heq ▸ tracks_windUp
  · exact heq ▸ ⟨trivial, rfl⟩

theorem Counting.advance (h : Counting config p) (hstep : advance config p = some q) :
    Counting config q := by
  have hbatched := h.toBatched.advance hstep
  obtain ⟨-, htracks, htaken, -, -, -⟩ := id h
  unfold QueueRuns.advance at hstep
  generalize hphase : p.phase = phase at hstep
  cases phase with
  | idle => cases hstep
  | syncing => cases hstep
  | called pass mutation n rest => cases hstep
  | listing pass =>
      cases hstep
      obtain ⟨htracks, hnone⟩ := @tracks_listed config p.trying p.shouldStop pass
        (getPendingMutations p.store)
      exact h.free hbatched htracks (by rw [hphase]; rfl) hnone rfl fun _ hmem _ => hmem
  | choosing pass rest =>
      cases hstep
      have hnone : p.phase.current = none := by rw [hphase]; rfl
      cases rest with
      | nil => exact h.free hbatched trivial hnone rfl rfl fun _ hmem _ => hmem
      | cons mutation rest =>
          rcases choose_cases config p.shouldStop pass mutation rest with
            ⟨-, heq⟩ | ⟨-, -, heq⟩ | ⟨-, -, heq⟩
          · exact h.free hbatched (by rw [heq]; trivial) hnone (by rw [heq]; rfl) rfl
              fun _ hmem _ => hmem
          · exact h.free hbatched (by rw [heq]; trivial) hnone (by rw [heq]; rfl) rfl
              fun _ hmem _ => hmem
          · rcases attempt_cases config p.shouldStop { pass with
              processable := pass.processable.map (· + 1) } mutation 0 rest with
              ⟨-, hnext⟩ | ⟨hmore, -, hnext⟩
            · exact h.free hbatched (by rw [heq, hnext]; trivial) hnone
                (by rw [heq, hnext]; rfl) rfl fun _ hmem _ => hmem
            · have hrest := h.rest mutation (by rw [hphase]; exact List.mem_cons_self)
              exact h.take hbatched hnone (heq.trans hnext) hmore hrest.1 hrest.2 rfl rfl
  | attempting pass mutation n rest =>
      cases hstep
      rw [hphase] at htracks htaken
      exact h.keep hbatched ⟨htracks, rfl⟩ (by rw [hphase]; rfl) rfl rfl
        (by rw [hphase]; exact le_rfl) (fun entry hmem hne => mem_of_mem_updateStatus_ne hmem hne)
        ((htaken mutation rfl).updateStatus (fun _ hmem => by cases hmem) fun hbad => by cases hbad)
  | marked pass mutation n rest =>
      cases hstep
      rw [hphase] at htracks htaken
      have hcurrent := h.atHand mutation (by rw [hphase]; rfl)
      rw [hphase] at hcurrent
      obtain ⟨hmore, htrying⟩ := htracks
      have hleft : attemptsLeft config p.trying (.marked pass mutation n rest) =
          config.maxAttempts - n := rfl
      refine ⟨hbatched, ⟨hmore, htrying⟩, htaken, ?_, ?_, ?_⟩
      · intro id
        show (mutation.id :: p.calls).count id ≤ _
        rw [List.count_cons]
        by_cases hid : mutation.id = id
        · subst hid
          simp only [BEq.rfl, if_true]
          omega
        · have hcalls := h.calls id
          simpa [hid] using hcalls
      · intro entry hmem hwaiting hother
        have hne : mutation.id ≠ entry.id := fun heq => hother mutation rfl heq.symm
        have hbound := h.pending entry hmem hwaiting (by rw [hphase]; exact hother)
        show (mutation.id :: p.calls).count entry.id + _ ≤ _
        rw [List.count_cons_of_ne hne]
        exact hbound
      · intro other hother
        obtain rfl : mutation = other := Option.some.inj hother
        show (mutation.id :: p.calls).count mutation.id + _ + (config.maxAttempts - n - 1) ≤ _
        rw [List.count_cons_self]
        omega
  | backingOff pass mutation n rest =>
      cases hstep
      rw [hphase] at htracks htaken
      rcases attempt_cases config p.shouldStop pass mutation (n + 1) rest with
        ⟨-, heq⟩ | ⟨hmore, -, heq⟩
      · exact h.release hbatched (by rw [heq]; trivial) (by rw [hphase]; rfl) (by rw [heq]; rfl)
          rfl (htaken mutation rfl).release
      · refine h.keep hbatched (by rw [heq]; exact hmore) (by rw [hphase]; rfl)
          (by rw [heq]; rfl) rfl ?_ (fun _ hmem _ => hmem) ?_
        · rw [heq, hphase]
          exact le_of_eq (Nat.sub_sub _ _ _).symm
        · rw [heq]
          exact htaken mutation rfl
  | succeeded pass mutation rest =>
      cases hstep
      refine h.release hbatched trivial (by rw [hphase]; rfl) rfl rfl ?_
      intro entry hmem hwaiting
      rcases mem_updateStatus_cases hmem with hold | ⟨-, hstatus, -⟩
      · exact .inl hold
      · rw [hstatus] at hwaiting
        cases hwaiting
  | requeueing pass mutation rest =>
      cases hstep
      rw [hphase] at htracks
      refine h.release hbatched trivial (by rw [hphase]; rfl) rfl rfl ?_
      intro entry hmem hwaiting
      rcases mem_updateStatus_cases hmem with hold | ⟨hid, -, old, -, -, hretry⟩
      · exact .inl hold
      · have hcount : entry.retryCount = mutation.retryCount + 1 := hretry
        have hlimit : mutation.retryCount + 1 < config.maxRetries := htracks
        exact .inr ⟨hid, budget_lt (by omega) (by omega)⟩
  | failing pass mutation rest =>
      cases hstep
      rw [hphase] at htracks htaken
      cases hfound : getMutation mutation.id p.store with
      | none =>
          rw [hfound] at hbatched
          exact h.release hbatched trivial (by rw [hphase]; rfl) rfl rfl
            (htaken mutation rfl).release
      | some entry =>
          rw [hfound] at hbatched
          have hmem : entry ∈ p.store := List.mem_of_find?_eq_some hfound
          have hid : entry.id = mutation.id := by simpa using List.find?_some hfound
          have hle := (htaken mutation rfl entry hmem hid).1
          refine h.keep hbatched ⟨htracks, by omega⟩ (by rw [hphase]; rfl) rfl rfl ?_
            (fun _ hmem _ => hmem) (htaken mutation rfl)
          rw [hphase]
          exact le_rfl
  | failed pass mutation retryCount rest =>
      cases hstep
      rw [hphase] at htracks
      refine h.release hbatched trivial (by rw [hphase]; rfl) rfl rfl ?_
      intro entry hmem hwaiting
      rcases mem_updateStatus_cases hmem with hold | ⟨hid, hstatus, old, -, -, hretry⟩
      · exact .inl hold
      · rw [hstatus] at hwaiting
        have hlimit := failedStatus_waiting hwaiting
        have hcount : entry.retryCount = retryCount := hretry
        have hmore : mutation.retryCount < retryCount := htracks.2
        exact .inr ⟨hid, budget_lt (by omega) (by omega)⟩
  | abandoning pass pending =>
      cases pending with
      | nil =>
          cases hstep
          obtain ⟨htracks, hnone⟩ := @tracks_windUp config p.trying pass
          exact h.free hbatched htracks (by rw [hphase]; rfl) hnone rfl fun _ hmem _ => hmem
      | cons mutation pending =>
          cases hstep
          refine h.free hbatched trivial (by rw [hphase]; rfl) rfl rfl ?_
          intro entry hmem hwaiting
          rcases mem_updateStatus_cases hmem with hold | ⟨-, hstatus, -⟩
          · exact hold.1
          · rw [hstatus] at hwaiting
            cases hwaiting
  | cleaning =>
      cases hstep
      exact h.free hbatched trivial (by rw [hphase]; rfl) rfl rfl
        fun _ hmem _ => (mem_select.1 hmem).1
  | releasing =>
      cases hstep
      exact h.free hbatched trivial (by rw [hphase]; rfl) rfl rfl fun _ hmem _ => hmem

theorem Counting.caught (h : Counting config p) (hbatched : Batched q) {pass : Pass} {n : Nat}
    {rest : List MutationEntry} {retryable : Option Bool}
    (hbefore : p.phase.current = some mutation)
    (hleft : attemptsLeft config p.trying p.phase = config.maxAttempts - n - 1)
    (hafter : q.phase = QueueRuns.caught config pass mutation n rest retryable)
    (htrying : q.trying = none) (hcalls : q.calls = p.calls)
    (hstore : ∀ entry ∈ q.store, entry.id ≠ mutation.id → entry ∈ p.store)
    (htaken : TakenUp config true q.store mutation) : Counting config q := by
  cases retryable with
  | none =>
      have hidle : q.phase = .idle := hafter
      refine h.release hbatched (by rw [hidle]; trivial) hbefore (by rw [hidle]; rfl) hcalls ?_
      intro entry hmem hwaiting
      rcases htaken.release entry hmem hwaiting with ⟨-, hne⟩ | hless
      · exact .inl ⟨hstore entry hmem hne, hne⟩
      · exact .inr hless
  | some retryable =>
      have hphase : q.phase = executed config pass mutation n rest (.threw retryable) := hafter
      rcases threw_cases config pass mutation n rest retryable with heq | ⟨hagain, heq⟩
      · refine h.keep hbatched ?_ hbefore (by rw [hphase, heq]; rfl) hcalls ?_ hstore ?_
        · rw [hphase, heq, htrying]
          exact fun _ hnone => by cases hnone
        · rw [hphase, heq, htrying]
          exact Nat.zero_le _
        · rw [hphase, heq]
          exact htaken
      · refine h.keep hbatched ?_ hbefore (by rw [hphase, heq]; rfl) hcalls ?_ hstore ?_
        · rw [hphase, heq]
          exact hagain
        · rw [hphase, heq, hleft]
          exact le_rfl
        · rw [hphase, heq]
          exact htaken

theorem Counting.throws (h : Counting config p) {retryable : Option Bool}
    (hstep : throws config p retryable = some q) : Counting config q := by
  have hbatched := h.toBatched.throws hstep
  obtain ⟨-, htracks, htaken, -, -, -⟩ := id h
  rcases throws_cases hstep with ⟨pass, mutation, rest, n, hphase, htrying, rfl⟩ |
    ⟨pass, mutation, retryCount, rest, hphase, hthrown⟩ | ⟨pass, mutation, pending, hphase, rfl⟩
  · rw [hphase] at htaken
    exact h.caught hbatched (by rw [hphase]; rfl) (by rw [hphase, htrying]; rfl) rfl rfl rfl
      (fun entry hmem hne => mem_of_mem_updateStatus_ne hmem hne)
      ((htaken mutation rfl).updateStatus (fun _ hmem => by cases hmem) fun hbad => by cases hbad)
  · rw [hphase] at htracks htaken
    obtain ⟨-, hcount⟩ := htracks
    have hafter : TakenUp config true (updateStatus mutation.id
        (failedStatus config retryCount) (some retryCount) p.store) mutation := by
      refine (htaken mutation rfl).updateStatus ?_ fun hwaiting =>
        ⟨retryCount, rfl, hcount, failedStatus_waiting hwaiting⟩
      intro count hsame
      obtain rfl : retryCount = count := Option.some.inj hsame
      exact hcount.le
    rcases hthrown with ⟨n, htrying, rfl⟩ | ⟨-, rfl⟩
    · exact h.caught hbatched (by rw [hphase]; rfl) (by rw [hphase, htrying]; rfl) rfl rfl rfl
        (fun entry hmem hne => mem_of_mem_updateStatus_ne hmem hne) hafter
    · refine h.release hbatched trivial (by rw [hphase]; rfl) rfl rfl ?_
      intro entry hmem hwaiting
      rcases hafter.release entry hmem hwaiting with ⟨-, hne⟩ | hless
      · exact .inl ⟨mem_of_mem_updateStatus_ne hmem hne, hne⟩
      · exact .inr hless
  · refine h.free hbatched trivial (by rw [hphase]; rfl) rfl rfl ?_
    intro entry hmem hwaiting
    rcases mem_updateStatus_cases hmem with hold | ⟨-, hstatus, -⟩
    · exact hold.1
    · rw [hstatus] at hwaiting
      cases hwaiting

theorem Counting.answer (h : Counting config p) {outcome : Outcome}
    (hcounted : Counted config p (.answer outcome)) (hstep : answer config p outcome = some q) :
    Counting config q := by
  have hbatched : Batched q := @Batched.step config p q h.toBatched (.answer outcome) hstep
  obtain ⟨-, htracks, htaken, -, -, -⟩ := id h
  obtain ⟨pass, mutation, n, rest, hphase, rfl⟩ := answer_cases hstep
  rw [hphase] at htracks htaken
  obtain ⟨hmore, htrying⟩ := htracks
  have hleft : attemptsLeft config p.trying p.phase = config.maxAttempts - n - 1 := by
    rw [hphase]
    rfl
  have hbefore : p.phase.current = some mutation := by rw [hphase]; rfl
  have htried : ∀ m ∈ p.trying, m < config.maxAttempts := by
    rw [htrying]
    intro m hm
    obtain rfl : n = m := Option.some.inj hm
    exact hmore
  have htriedLeft : leftAfter config p.trying = config.maxAttempts - n - 1 := by
    rw [htrying]
    rfl
  cases outcome with
  | success =>
      exact h.keep hbatched htried hbefore rfl rfl
        (by rw [hleft]; exact htriedLeft.le) (fun _ hmem _ => hmem) (htaken mutation rfl)
  | failure =>
      exact h.keep hbatched htried hbefore rfl rfl
        (by rw [hleft]; exact htriedLeft.le) (fun _ hmem _ => hmem) (htaken mutation rfl)
  | conflict =>
      exact h.keep hbatched (hcounted mutation hbefore) hbefore rfl rfl (Nat.zero_le _)
        (fun _ hmem _ => hmem) (htaken mutation rfl)
  | threw retryable =>
      exact @Counting.caught config p _ mutation h hbatched pass n rest (some retryable)
        hbefore hleft rfl rfl rfl (fun _ hmem _ => hmem) (htaken mutation rfl)

/-- **One step** keeps the counts. -/
theorem Counting.step (h : Counting config p) {event : Event} (hrun : OneRun p event)
    (hcounted : Counted config p event) (hstep : step config p event = some q) :
    Counting config q := by
  cases event with
  | advance => exact h.advance hstep
  | throws retryable => exact h.throws hstep
  | answer outcome => exact h.answer hcounted hstep
  | process =>
      obtain rfl := Option.some.inj hstep
      have hsame : process p = p := if_pos (.inl hrun)
      rw [hsame]
      exact h
  | escape =>
      have hbatched : Batched q := h.toBatched.step hstep
      obtain ⟨pass, mutation, n, rest, hphase, rfl⟩ := escape_cases hstep
      have hbefore : p.phase.current = some mutation ∧ p.phase.working.isSome := by
        rcases hphase with hphase | hphase <;> rw [hphase] <;> exact ⟨rfl, rfl⟩
      have htaken := h.takenUp mutation hbefore.1
      rw [hbefore.2] at htaken
      exact h.release hbatched trivial hbefore.1 rfl rfl (TakenUp.release htaken)
  | stop =>
      have hbatched : Batched q := h.toBatched.step hstep
      obtain rfl := Option.some.inj hstep
      exact ⟨hbatched, h.tracks, h.takenUp, h.calls, h.pending, h.atHand⟩
  | dispose =>
      have hbatched : Batched q := h.toBatched.step hstep
      obtain rfl := Option.some.inj hstep
      exact ⟨hbatched, h.tracks, h.takenUp, h.calls, h.pending, h.atHand⟩
  | enqueue entry => exact absurd hrun id

end Counting

section Left

variable (config : QueueConfig)

/-- The steps that are left of a try at the mutation at hand. -/
def remaining (trying : Option Nat) : Phase → Nat
  | .attempting _ _ n _ => 8 * (config.maxAttempts - n)
  | .marked _ _ n _ => 8 * (config.maxAttempts - n) - 1
  | .called _ _ n _ => 8 * (config.maxAttempts - n) - 2
  | .backingOff _ _ n _ => 8 * (config.maxAttempts - n) - 5
  | .succeeded _ _ _ => trying.elim 1 fun n => 8 * (config.maxAttempts - n) - 3
  | .requeueing _ _ _ => 1
  | .failing _ _ _ => trying.elim 2 fun n => 8 * (config.maxAttempts - n) - 3
  | .failed _ _ _ _ => trying.elim 1 fun n => 8 * (config.maxAttempts - n) - 4
  | _ => 0

/-- The steps from one reading of the table to the next or to the end, besides the tries; if
nothing could be processed, the run is about to end. -/
def loopCost (size : Nat) : Nat := 2 * size + 7

def batchCost (size : Nat) (pass : Pass) : Nat :=
  if pass.processable = some 0 then size + 5 else loopCost size

/-- The steps that one more try may lead to. -/
def tryCost (size : Nat) : Nat := 8 * config.maxAttempts + 1 + loopCost size

/-- A bound on the steps that are left. -/
def left (p : Processor) : Nat :=
  match p.phase.current with
  | some mutation =>
      (totalBut config mutation.id p.store + (budget config mutation - 1)) *
          tryCost config p.store.length + remaining config p.trying p.phase +
        (p.phase.rest.length + 1) + loopCost p.store.length
  | none =>
      match p.phase with
      | .releasing => 1
      | .cleaning => 2
      | .abandoning _ pending => pending.length + 3
      | .listing pass => total config p.store * tryCost config p.store.length +
          batchCost p.store.length pass
      | .choosing pass rest => total config p.store * tryCost config p.store.length +
          (rest.length + 1) + batchCost p.store.length pass
      | _ => 0

variable {config} {p q : Processor} {mutation : MutationEntry} {pass : Pass}
  {rest : List MutationEntry} {n : Nat}

theorem left_of_current (h : p.phase.current = some mutation) : left config p =
    (totalBut config mutation.id p.store + (budget config mutation - 1)) *
        tryCost config p.store.length + remaining config p.trying p.phase +
      (p.phase.rest.length + 1) + loopCost p.store.length := by
  unfold left
  rw [h]

theorem left_choosing (h : p.phase = .choosing pass rest) : left config p =
    total config p.store * tryCost config p.store.length + (rest.length + 1) +
      batchCost p.store.length pass := by
  unfold left
  rw [h]
  rfl

theorem left_listing (h : p.phase = .listing pass) : left config p =
    total config p.store * tryCost config p.store.length + batchCost p.store.length pass := by
  unfold left
  rw [h]
  rfl

theorem batchCost_le {size : Nat} : batchCost size pass ≤ loopCost size := by
  unfold batchCost loopCost
  split <;> omega

theorem left_windUp {phase : Phase} (h : phase = windUp config pass) (hphase : p.phase = phase) :
    left config p ≤ 2 := by
  unfold left
  rcases windUp_cases config pass with heq | heq
  · rw [hphase, h, heq]
    exact le_rfl
  · rw [hphase, h, heq]
    exact Nat.le_succ 1

theorem left_lt_of_release (hbatched : Batched q) (hbefore : p.phase.current = some mutation)
    (hrest : p.phase.rest = rest) (hafter : q.phase = .choosing pass rest)
    (hremaining : 1 ≤ remaining config p.trying p.phase)
    (hlength : q.store.length = p.store.length)
    (hothers : totalBut config mutation.id q.store = totalBut config mutation.id p.store)
    (hweight : ∀ entry ∈ q.store, entry.id = mutation.id →
      weight config entry ≤ budget config mutation - 1) : left config q < left config p := by
  rw [left_of_current hbefore, left_choosing hafter, hrest, hlength]
  have htotal := total_le_add hbatched.nodup hweight
  rw [hothers] at htotal
  have hmul := Nat.mul_le_mul_right (tryCost config p.store.length) htotal
  have hcost := @batchCost_le pass p.store.length
  omega

theorem left_lt_of_keep (hbefore : p.phase.current = some mutation)
    (hafter : q.phase.current = some mutation) (hrest : q.phase.rest = p.phase.rest)
    (hremaining : remaining config q.trying q.phase < remaining config p.trying p.phase)
    (hlength : q.store.length = p.store.length)
    (hothers : totalBut config mutation.id q.store = totalBut config mutation.id p.store) :
    left config q < left config p := by
  rw [left_of_current hbefore, left_of_current hafter, hrest, hlength, hothers]
  omega

theorem left_lt_of_idle (hbefore : p.phase.current = some mutation) (hafter : q.phase = .idle) :
    left config q < left config p := by
  rw [left_of_current hbefore]
  unfold left
  rw [hafter]
  show 0 < _
  omega

theorem weight_le_of_takenUp {store : MutationStore} (h : TakenUp config true store mutation) :
    ∀ entry ∈ store, entry.id = mutation.id →
      weight config entry ≤ budget config mutation - 1 := by
  intro entry hmem hid
  unfold weight
  by_cases hwaiting : entry.status.waiting = true
  · rw [if_pos hwaiting]
    rcases h.release entry hmem hwaiting with ⟨-, hne⟩ | ⟨-, hless⟩
    · exact absurd hid hne
    · omega
  · rw [if_neg hwaiting]
    exact Nat.zero_le _

theorem length_topologicalSort_le (items : List MutationEntry) :
    (topologicalSort items).length ≤ items.length := by
  obtain ⟨hnodup, hmem⟩ := topologicalSort_spec items
  exact (List.subperm_of_subset (List.Nodup.of_map _ hnodup) hmem).length_le

theorem length_getPendingMutations_le (store : MutationStore) :
    (getPendingMutations store).length ≤ store.length := by
  unfold getPendingMutations
  rw [orderedBy_perm.length_eq]
  exact List.length_filter_le _ _

theorem left_lt_of_listed (hbefore : p.phase = .listing pass) (hstore : q.store = p.store)
    (hafter : q.phase = listed config p.shouldStop pass (getPendingMutations p.store)) :
    left config q < left config p := by
  rw [left_listing hbefore]
  have hpending := length_getPendingMutations_le p.store
  rcases listed_cases config p.shouldStop pass (getPendingMutations p.store) with
    ⟨-, -, hstuck, heq⟩ | ⟨-, heq⟩ | ⟨-, -, hmore, heq⟩
  · have hq : left config q = (getPendingMutations p.store).length + 3 := by
      unfold left
      rw [hafter, heq]
      rfl
    rw [hq, batchCost, if_pos hstuck]
    omega
  · have hend := left_windUp heq hafter
    have hcost : 5 ≤ batchCost p.store.length pass := by
      unfold batchCost loopCost
      split <;> omega
    omega
  · rw [left_choosing (hafter.trans heq), hstore]
    have hsort := length_topologicalSort_le (getPendingMutations p.store)
    have hlen : ((topologicalSort (getPendingMutations p.store)).take
        config.batchSize).length ≤ p.store.length := by
      rw [List.length_take]
      omega
    rw [batchCost, batchCost, if_neg hmore, if_pos rfl, loopCost]
    omega

theorem left_lt_of_choose (h : Batched p) (hbefore : p.phase = .choosing pass rest)
    (hattempts : 1 ≤ config.maxAttempts) (hstore : q.store = p.store)
    (hafter : q.phase = choose config p.shouldStop pass rest) :
    left config q < left config p := by
  rw [left_choosing hbefore]
  cases rest with
  | nil =>
      have hq : q.phase = .listing pass := hafter
      rw [left_listing hq, hstore]
      omega
  | cons mutation rest =>
      rw [List.length_cons]
      rcases choose_cases config p.shouldStop pass mutation rest with
        ⟨-, heq⟩ | ⟨-, -, heq⟩ | ⟨hgo, -, heq⟩
      · rw [left_listing (hafter.trans heq), hstore]
        omega
      · rw [left_choosing (hafter.trans heq), hstore]
        omega
      · rcases attempt_cases config p.shouldStop { pass with
          processable := pass.processable.map (· + 1) } mutation 0 rest with
          ⟨hend, -⟩ | ⟨-, -, hnext⟩
        · exfalso
          rcases hend with hnone | hstop
          · omega
          · rw [hgo] at hstop
            cases hstop
        · have hphase := hafter.trans (heq.trans hnext)
          have hcurrent : q.phase.current = some mutation := by
            rw [hphase]
            rfl
          obtain ⟨hmem, hwaiting⟩ := h.rest mutation (by
            rw [hbefore]
            exact List.mem_cons_self)
          have htotal := @totalBut_add_le config p.store mutation hmem
          have hweight : weight config mutation = budget config mutation := if_pos hwaiting
          have hone := @one_le_budget config mutation
          have hmul := Nat.mul_le_mul_right (tryCost config p.store.length)
            (show totalBut config mutation.id p.store + (budget config mutation - 1) + 1 ≤
              total config p.store by omega)
          rw [Nat.add_mul, Nat.one_mul] at hmul
          have hcost : tryCost config p.store.length =
              8 * config.maxAttempts + 1 + loopCost p.store.length := rfl
          rw [left_of_current hcurrent, hstore, hphase]
          show _ + 8 * (config.maxAttempts - 0) + (rest.length + 1) + _ < _
          omega

/-- The steps of the processing itself. -/
def Event.works : Event → Bool
  | .advance => true
  | .answer _ => true
  | .throws _ => true
  | .escape => true
  | _ => false

theorem left_lt_of_advance (h : Counting config p) (hattempts : 1 ≤ config.maxAttempts)
    (hstep : advance config p = some q) : left config q < left config p := by
  have hbatched := h.toBatched.advance hstep
  obtain ⟨-, htracks, htaken, -, -, -⟩ := id h
  unfold QueueRuns.advance at hstep
  generalize hphase : p.phase = phase at hstep
  cases phase with
  | idle => cases hstep
  | syncing => cases hstep
  | called pass mutation n rest => cases hstep
  | listing pass =>
      cases hstep
      exact left_lt_of_listed hphase rfl rfl
  | choosing pass rest =>
      cases hstep
      exact left_lt_of_choose h.toBatched hphase hattempts rfl rfl
  | attempting pass mutation n rest =>
      cases hstep
      have hmore : n < config.maxAttempts := by
        rw [hphase] at htracks
        exact htracks
      refine left_lt_of_keep (by rw [hphase]; rfl) rfl (by rw [hphase]; rfl) ?_
        length_updateStatus totalBut_updateStatus
      rw [hphase]
      show 8 * (config.maxAttempts - n) - 1 < 8 * (config.maxAttempts - n)
      omega
  | marked pass mutation n rest =>
      cases hstep
      have hmore : n < config.maxAttempts := by
        rw [hphase] at htracks
        exact htracks.1
      refine left_lt_of_keep (by rw [hphase]; rfl) rfl (by rw [hphase]; rfl) ?_ rfl rfl
      rw [hphase]
      show 8 * (config.maxAttempts - n) - 2 < 8 * (config.maxAttempts - n) - 1
      omega
  | backingOff pass mutation n rest =>
      cases hstep
      have hmore : n + 1 < config.maxAttempts := by
        rw [hphase] at htracks
        exact htracks
      have htakenUp := htaken mutation (by rw [hphase]; rfl)
      rw [hphase] at htakenUp
      have hremaining : remaining config p.trying p.phase =
          8 * (config.maxAttempts - n) - 5 := by
        rw [hphase]
        rfl
      rcases attempt_cases config p.shouldStop pass mutation (n + 1) rest with
        ⟨-, heq⟩ | ⟨-, -, heq⟩
      · exact left_lt_of_release hbatched (by rw [hphase]; rfl) (by rw [hphase]; rfl) heq
          (by omega) rfl rfl (weight_le_of_takenUp htakenUp)
      · refine left_lt_of_keep (by rw [hphase]; rfl) (by rw [heq]; rfl) (by rw [heq, hphase]; rfl)
          ?_ rfl rfl
        rw [hremaining, heq]
        show 8 * (config.maxAttempts - (n + 1)) < 8 * (config.maxAttempts - n) - 5
        omega
  | succeeded pass mutation rest =>
      cases hstep
      have htakenUp := htaken mutation (by rw [hphase]; rfl)
      refine left_lt_of_release hbatched (by rw [hphase]; rfl) (by rw [hphase]; rfl) rfl ?_
        length_updateStatus totalBut_updateStatus
        (weight_le_of_takenUp (htakenUp.updateStatus (fun _ hmem => by cases hmem)
          fun hbad => by cases hbad))
      rw [hphase] at htracks
      rw [hphase]
      cases htrying : p.trying with
      | none => exact le_rfl
      | some n =>
          have hmore := htracks n htrying
          show 1 ≤ 8 * (config.maxAttempts - n) - 3
          omega
  | requeueing pass mutation rest =>
      cases hstep
      have htakenUp := htaken mutation (by rw [hphase]; rfl)
      rw [hphase] at htracks
      refine left_lt_of_release hbatched (by rw [hphase]; rfl) (by rw [hphase]; rfl) rfl
        (by rw [hphase]; exact le_rfl) length_updateStatus totalBut_updateStatus
        (weight_le_of_takenUp (htakenUp.updateStatus ?_ fun _ =>
          ⟨mutation.retryCount + 1, rfl, Nat.lt_succ_self _, htracks⟩))
      intro count hcount
      obtain rfl : mutation.retryCount + 1 = count := Option.some.inj hcount
      exact Nat.le_succ _
  | failing pass mutation rest =>
      cases hstep
      have htakenUp := htaken mutation (by rw [hphase]; rfl)
      rw [hphase] at htakenUp htracks
      have htries : ∀ n ∈ p.trying, n < config.maxAttempts := htracks
      have hremaining : remaining config p.trying p.phase =
          p.trying.elim 2 fun n => 8 * (config.maxAttempts - n) - 3 := by
        rw [hphase]
        rfl
      cases hfound : getMutation mutation.id p.store with
      | none =>
          rw [hfound] at hbatched
          refine left_lt_of_release hbatched (by rw [hphase]; rfl) (by rw [hphase]; rfl) rfl ?_
            rfl rfl (weight_le_of_takenUp htakenUp)
          rw [hremaining]
          cases htrying : p.trying with
          | none => exact Nat.le_succ 1
          | some n =>
              have hmore := htries n htrying
              show 1 ≤ 8 * (config.maxAttempts - n) - 3
              omega
      | some entry =>
          refine left_lt_of_keep (by rw [hphase]; rfl) rfl (by rw [hphase]; rfl) ?_ rfl rfl
          rw [hremaining]
          cases htrying : p.trying with
          | none => exact Nat.lt_succ_self 1
          | some n =>
              have hmore := htries n htrying
              show 8 * (config.maxAttempts - n) - 4 < 8 * (config.maxAttempts - n) - 3
              omega
  | failed pass mutation retryCount rest =>
      cases hstep
      have htakenUp := htaken mutation (by rw [hphase]; rfl)
      rw [hphase] at htracks
      obtain ⟨htries, hcount⟩ := htracks
      refine left_lt_of_release hbatched (by rw [hphase]; rfl) (by rw [hphase]; rfl) rfl ?_
        length_updateStatus totalBut_updateStatus
        (weight_le_of_takenUp (htakenUp.updateStatus ?_ fun hwaiting =>
          ⟨retryCount, rfl, hcount, failedStatus_waiting hwaiting⟩))
      · rw [hphase]
        cases htrying : p.trying with
        | none => exact le_rfl
        | some n =>
            have hmore := htries n htrying
            show 1 ≤ 8 * (config.maxAttempts - n) - 4
            omega
      · intro count hsame
        obtain rfl : retryCount = count := Option.some.inj hsame
        exact hcount.le
  | abandoning pass pending =>
      have hbefore : left config p = pending.length + 3 := by
        unfold left
        rw [hphase]
        rfl
      cases pending with
      | nil =>
          cases hstep
          have hend := @left_windUp config { p with phase := windUp config pass } pass _ rfl rfl
          rw [hbefore]
          exact lt_of_le_of_lt hend (Nat.lt_succ_self 2)
      | cons mutation pending =>
          cases hstep
          rw [hbefore, List.length_cons]
          show pending.length + 3 < _
          omega
  | cleaning =>
      cases hstep
      unfold left
      rw [hphase]
      exact Nat.lt_succ_self 1
  | releasing =>
      cases hstep
      unfold left
      rw [hphase]
      exact Nat.lt_succ_self 0

/-- An exception that is caught leads to the end of the attempt. -/
theorem left_lt_of_caught {retryable : Option Bool} (hmore : n < config.maxAttempts)
    (hbefore : p.phase.current = some mutation) (hrest : p.phase.rest = rest)
    (hafter : q.phase = caught config pass mutation n rest retryable) (htrying : q.trying = none)
    (hremaining : 8 * (config.maxAttempts - n) - 4 ≤ remaining config p.trying p.phase)
    (hlength : q.store.length = p.store.length)
    (hothers : totalBut config mutation.id q.store = totalBut config mutation.id p.store) :
    left config q < left config p := by
  cases retryable with
  | none => exact left_lt_of_idle hbefore hafter
  | some retryable =>
      have hphase : q.phase = executed config pass mutation n rest (.threw retryable) := hafter
      rcases threw_cases config pass mutation n rest retryable with heq | ⟨-, heq⟩
      · refine left_lt_of_keep hbefore (by rw [hphase, heq]; rfl) (by rw [hphase, heq, hrest]; rfl)
          ?_ hlength hothers
        have hleft : remaining config q.trying q.phase = 2 := by
          rw [hphase, heq, htrying]
          rfl
        omega
      · refine left_lt_of_keep hbefore (by rw [hphase, heq]; rfl) (by rw [hphase, heq, hrest]; rfl)
          ?_ hlength hothers
        have hleft : remaining config q.trying q.phase = 8 * (config.maxAttempts - n) - 5 := by
          rw [hphase, heq]
          rfl
        omega

theorem left_lt_of_throws (h : Counting config p) {retryable : Option Bool}
    (hstep : throws config p retryable = some q) : left config q < left config p := by
  have htracks := h.tracks
  rcases throws_cases hstep with ⟨pass, mutation, rest, n, hphase, htrying, rfl⟩ |
    ⟨pass, mutation, retryCount, rest, hphase, ⟨n, htrying, rfl⟩ | ⟨-, rfl⟩⟩ |
    ⟨pass, mutation, pending, hphase, rfl⟩
  · rw [hphase] at htracks
    have hmore := htracks n htrying
    refine left_lt_of_caught hmore (by rw [hphase]; rfl) (by rw [hphase]; rfl) rfl rfl ?_
      length_updateStatus totalBut_updateStatus
    rw [hphase, htrying]
    show _ ≤ 8 * (config.maxAttempts - n) - 3
    omega
  · rw [hphase] at htracks
    have hmore := htracks.1 n htrying
    refine left_lt_of_caught hmore (by rw [hphase]; rfl) (by rw [hphase]; rfl) rfl rfl ?_
      length_updateStatus totalBut_updateStatus
    rw [hphase, htrying]
    exact le_rfl
  · exact left_lt_of_idle (by rw [hphase]; rfl) rfl
  · unfold left
    rw [hphase]
    exact Nat.succ_pos _

theorem left_lt_of_answer (h : Counting config p) {outcome : Outcome}
    (hstep : answer config p outcome = some q) : left config q < left config p := by
  have htracks := h.tracks
  obtain ⟨pass, mutation, n, rest, hphase, rfl⟩ := answer_cases hstep
  rw [hphase] at htracks
  obtain ⟨hmore, htrying⟩ := htracks
  have hremaining : remaining config p.trying p.phase =
      8 * (config.maxAttempts - n) - 2 := by
    rw [hphase]
    rfl
  have hbefore : p.phase.current = some mutation := by rw [hphase]; rfl
  cases outcome with
  | success =>
      refine left_lt_of_keep hbefore rfl (by rw [hphase]; rfl) ?_ rfl rfl
      rw [hremaining]
      show p.trying.elim 1 (fun n => 8 * (config.maxAttempts - n) - 3) < _
      rw [htrying]
      show 8 * (config.maxAttempts - n) - 3 < _
      omega
  | failure =>
      refine left_lt_of_keep hbefore rfl (by rw [hphase]; rfl) ?_ rfl rfl
      rw [hremaining]
      show p.trying.elim 2 (fun n => 8 * (config.maxAttempts - n) - 3) < _
      rw [htrying]
      show 8 * (config.maxAttempts - n) - 3 < _
      omega
  | conflict =>
      refine left_lt_of_keep hbefore rfl (by rw [hphase]; rfl) ?_ rfl rfl
      rw [hremaining]
      show 1 < _
      omega
  | threw retryable =>
      exact @left_lt_of_caught config p _ mutation pass rest n (some retryable) hmore hbefore
        (by rw [hphase]; rfl) rfl rfl (by omega) rfl rfl

/-- **One step** of the processing comes nearer to the end, and the others do not lead away
from it. -/
theorem left_lt_of_step (h : Counting config p) (hattempts : 1 ≤ config.maxAttempts)
    {event : Event} (hrun : OneRun p event) (hstep : step config p event = some q) :
    left config q + (if event.works then 1 else 0) ≤ left config p := by
  cases event with
  | advance => exact left_lt_of_advance h hattempts hstep
  | throws retryable => exact left_lt_of_throws h hstep
  | answer outcome => exact left_lt_of_answer h hstep
  | process =>
      obtain rfl := Option.some.inj hstep
      have hsame : process p = p := if_pos (.inl hrun)
      rw [hsame]
      exact le_rfl
  | escape =>
      obtain ⟨pass, mutation, n, rest, hphase, rfl⟩ := escape_cases hstep
      refine @left_lt_of_idle config p _ mutation ?_ rfl
      rcases hphase with hphase | hphase <;> rw [hphase] <;> rfl
  | stop =>
      obtain rfl := Option.some.inj hstep
      exact le_rfl
  | dispose =>
      obtain rfl := Option.some.inj hstep
      exact le_rfl
  | enqueue entry => exact absurd hrun id

end Left

def stepBound (config : QueueConfig) (store : MutationStore) : Nat :=
  left config (process (Processor.new store))

/-- How a run that has got as far as `q` comes to an end: it goes on until it is over, its
steps are bounded, and so are the calls for each mutation. -/
structure Ends (config : QueueConfig) (store : MutationStore) (events : List Event)
    (q : Processor) : Prop where
  calls : ∀ id, q.calls.count id ≤ config.maxAttempts * config.maxRetries
  steps : events.countP Event.works ≤ stepBound config store
  goesOn : q.phase ≠ .idle → ∃ event, event.works = true ∧ (step config q event).isSome = true

theorem counting_process {config : QueueConfig} {store : MutationStore}
    (hnodup : (ids store).Nodup) (hretries : 1 ≤ config.maxRetries) :
    Counting config (process (Processor.new store)) := by
  have hbatched : Batched (process (Processor.new store)) :=
    @Batched.step config (Processor.new store) _ (batched_new hnodup) .process rfl
  refine ⟨hbatched, trivial, ?_, ?_, ?_, ?_⟩
  · exact fun _ hmem => by cases hmem
  · exact fun _ => Nat.zero_le _
  · intro entry _ _ _
    show 0 + config.maxAttempts * budget config entry ≤ _
    rw [Nat.zero_add]
    exact Nat.mul_le_mul_left _ (budget_le hretries entry)
  · exact fun _ hmem => by cases hmem

theorem goesOn_of_tracks {config : QueueConfig} {q : Processor}
    (h : Tracks config q.trying q.phase) (hidle : q.phase ≠ .idle) :
    ∃ event, event.works = true ∧ (step config q event).isSome = true := by
  cases hphase : q.phase with
  | idle => exact absurd hphase hidle
  | syncing =>
      rw [hphase] at h
      exact absurd h id
  | called pass mutation n rest =>
      exact ⟨.answer .success, rfl, by simp [step, answer, hphase]⟩
  | abandoning pass pending =>
      refine ⟨.advance, rfl, ?_⟩
      cases pending with
      | nil => simp [step, advance, hphase]
      | cons mutation pending => simp [step, advance, hphase]
  | _ => exact ⟨.advance, rfl, by simp [step, advance, hphase]⟩

/-- **Every run ends.** If conflicts are reported only for mutations below the limit of their
retries, a run of the processor ends after a bounded number of steps, and calls the executor
at most `maxAttempts * maxRetries` times for each mutation. -/
theorem ends_of_counted (config : QueueConfig) (store : MutationStore) (events : List Event)
    {q : Processor} (hnodup : (ids store).Nodup) (hattempts : 1 ≤ config.maxAttempts)
    (hretries : 1 ≤ config.maxRetries)
    (hallowed : Allowed (step config) (fun p event => OneRun p event ∧ Counted config p event)
      (process (Processor.new store)) events)
    (hexec : Exec (step config) (process (Processor.new store)) events q) :
    Ends config store events q := by
  have hrun : Counting config q ∧
      left config q + events.countP Event.works ≤ stepBound config store := by
    induction hexec with
    | nil => exact ⟨counting_process hnodup hretries, le_rfl⟩
    | snoc hbefore hlast ih =>
        rename_i before event r u
        obtain ⟨hcounting, hleft⟩ := ih hallowed.before
        obtain ⟨hone, hcounted⟩ := @Allowed.at_step _ _ _ _ before [] event _ r hallowed hbefore
        refine ⟨hcounting.step hone hcounted hlast, ?_⟩
        have hstep := left_lt_of_step hcounting hattempts hone hlast
        rw [List.countP_append, List.countP_singleton]
        omega
  refine ⟨hrun.1.calls, by omega, goesOn_of_tracks hrun.1.tracks⟩

def conflictOnce : List Event :=
  [.advance, .advance, .advance, .advance, .answer .conflict, .advance, .advance, .advance,
    .advance, .advance, .advance, .answer .success, .advance, .advance, .advance, .advance,
    .advance]

theorem conflictOnce_ends :
    ∃ q, Exec (step {}) (process (Processor.new [⟨"a", 1, .pending, 0, []⟩])) conflictOnce q ∧
      q.phase = .idle ∧ Ends {} [⟨"a", 1, .pending, 0, []⟩] conflictOnce q := by
  obtain ⟨q, hexec, hidle⟩ := @exists_exec _ _ (step {}) (fun q => q.phase = .idle) _
    conflictOnce (process (Processor.new [⟨"a", 1, .pending, 0, []⟩])) (by decide)
  exact ⟨q, hexec, hidle, ends_of_counted {} _ _ (by decide) (by decide) (by decide) (by decide)
    hexec⟩

/-- The mutation is taken up, its conflict is resolved, and it is pending again. -/
def conflict : List Event :=
  [.advance, .advance, .advance, .advance, .answer .conflict, .advance, .advance]

/-- The table is about to be read with one mutation in it. -/
def AtConflict (p : Processor) : Prop :=
  ∃ pass retryCount, p.phase = .listing pass ∧ pass.processable ≠ some 0 ∧
    p.shouldStop = false ∧ p.store = [⟨"a", 1, .pending, retryCount, []⟩]

theorem AtConflict.again {p : Processor} (h : AtConflict p) :
    ∃ q, run (step {}) p conflict = some q ∧ AtConflict q ∧ q.calls = "a" :: p.calls := by
  obtain ⟨⟨completedIds, succeeded, processable⟩, retryCount, hphase, hmore, hstop, hstore⟩ := h
  cases p with
  | mk store phase shouldStop disposed trying issued done touched calls opening seen known batch =>
      dsimp only at hphase hmore hstop hstore
      subst hphase hstop hstore
      cases processable with
      | none => exact ⟨_, rfl, ⟨_, _, rfl, by simp, rfl, rfl⟩, rfl⟩
      | some k =>
          cases k with
          | zero => exact absurd rfl hmore
          | succ k => exact ⟨_, rfl, ⟨_, _, rfl, by simp, rfl, rfl⟩, rfl⟩

/-- The mutation of one update, in a run that has just begun. -/
def oneUpdate : Processor := process (Processor.new [⟨"a", 1, .pending, 0, []⟩])

theorem exists_conflicts (n : Nat) : ∃ events q, (∀ event ∈ events, event.works = true) ∧
    Exec (step {}) oneUpdate events q ∧ AtConflict q ∧ q.calls.count "a" = n ∧
      n ≤ events.length := by
  induction n with
  | zero =>
      exact ⟨[], oneUpdate, by simp, .nil, ⟨_, 0, rfl, by simp, rfl, rfl⟩, rfl, le_rfl⟩
  | succ n ih =>
      obtain ⟨events, q, hworks, hexec, hat, hcalls, hlength⟩ := ih
      obtain ⟨r, hrun, hagain, hmore⟩ := hat.again
      refine ⟨events ++ conflict, r, ?_, hexec.append (exec_of_run hrun), hagain, ?_, ?_⟩
      · intro event hmem
        rcases List.mem_append.1 hmem with hold | hnew
        · exact hworks event hold
        · have hall : ∀ event ∈ conflict, event.works = true := by decide
          exact hall event hnew
      · rw [hmore, List.count_cons_self, hcalls]
      · rw [List.length_append]
        have hseven : conflict.length = 7 := rfl
        omega

/-- **A run without an end.** Neither the calls for a mutation nor the steps of a run are
bounded if the server reports a newer version each time. -/
theorem conflicts_do_not_end :
    (¬ ∃ bound, ∀ events q, (∀ event ∈ events, event.works = true) →
      Exec (step {}) oneUpdate events q → q.calls.count "a" ≤ bound) ∧
    ¬ ∃ bound, ∀ events q, (∀ event ∈ events, event.works = true) →
      Exec (step {}) oneUpdate events q → events.length ≤ bound := by
  refine ⟨?_, ?_⟩
  · intro hbounded
    obtain ⟨bound, hbound⟩ := hbounded
    obtain ⟨events, q, hworks, hexec, -, hcalls, -⟩ := exists_conflicts (bound + 1)
    have hle := hbound events q hworks hexec
    omega
  · intro hbounded
    obtain ⟨bound, hbound⟩ := hbounded
    obtain ⟨events, q, hworks, hexec, -, -, hlength⟩ := exists_conflicts (bound + 1)
    have hle := hbound events q hworks hexec
    omega

end QueueRuns

end SyncEngine

end Zentra
