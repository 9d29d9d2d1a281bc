import Mathlib.Data.Fintype.Card
import Mathlib.Data.Set.Finite.Basic
import Mathlib.Logic.Relation
import Mathlib.Order.WellFounded
import Zentra.QueueSettled

/-!
# Mutations that depend on each other

The processor takes up a mutation when all that it depends on has completed in the same
run.  If there is none in a batch, it gives up everything that is pending.

* `sound_of_considered` — under this condition all runs are sound;
* `given_up_too_early` — a mutation outside of the batch, and one whose dependency has
  completed in an earlier run.
-/

open StepTrace TableRows

namespace Zentra

namespace SyncEngine

/-- If everything in a finite collection leads on to something in it or to something bad,
then it leads to a cycle or to something bad. -/
theorem exists_cycle_or_bad {α : Type} {r : α → α → Prop} {items : List α} {bad : α → Prop}
    (h : ∀ a ∈ items, ∃ b, r a b ∧ (b ∈ items ∨ bad b)) {a : α} (ha : a ∈ items) :
    ∃ d, Relation.TransGen r a d ∧ (Relation.TransGen r d d ∨ bad d) := by
  by_contra hnone
  have hgood : ∀ d, Relation.TransGen r a d → ¬ Relation.TransGen r d d ∧ ¬ bad d :=
    fun d hd => ⟨fun hcycle => hnone ⟨d, hd, .inl hcycle⟩, fun hbad => hnone ⟨d, hd, .inr hbad⟩⟩
  -- the items that `a` leads to, ordered by what leads to what
  let reached := { x : { x // x ∈ items } // x.1 = a ∨ Relation.TransGen r a x.1 }
  let after : reached → reached → Prop := fun x y => Relation.TransGen r y.1.1 x.1.1
  have hfinite : Finite { x // x ∈ items } := List.finite_toSet items
  have htrans : IsTrans reached after := ⟨fun x y z hxy hyz => hyz.trans hxy⟩
  have hirrefl : Std.Irrefl after := by
    refine ⟨fun x hx => ?_⟩
    rcases x.2 with heq | hreach
    · have hcycle : Relation.TransGen r a a := by
        have hself : Relation.TransGen r x.1.1 x.1.1 := hx
        rwa [heq] at hself
      exact (hgood a hcycle).1 hcycle
    · exact (hgood x.1.1 hreach).1 hx
  have hwf : WellFounded after := Finite.wellFounded_of_trans_of_irrefl after
  obtain ⟨last, -, hlast⟩ := hwf.has_min Set.univ ⟨⟨⟨a, ha⟩, .inl rfl⟩, trivial⟩
  obtain ⟨b, hb, hmem⟩ := h last.1.1 last.1.2
  have hreach : Relation.TransGen r a b := by
    rcases last.2 with heq | hreach
    · exact .single (heq ▸ hb)
    · exact hreach.tail hb
  rcases hmem with hitem | hbad
  · exact hlast ⟨⟨b, hitem⟩, .inr hreach⟩ trivial (.single hb)
  · exact (hgood b hreach).2 hbad

/-- The mutation that is about to be handed to the executor. -/
def Phase.handed : Phase → Option MutationEntry
  | .marked _ mutation _ _ => some mutation
  | _ => none

def Phase.givenUp : Phase → List MutationEntry
  | .abandoning _ pending => pending
  | _ => []

/-- The loop over the batches is over. -/
def Phase.finished : Phase → Bool
  | .cleaning => true
  | .releasing => true
  | _ => false

def Phase.reading : Phase → Option Pass
  | .listing pass => some pass
  | _ => none

/-- No mutation will be executed in this run any more. -/
def Phase.ending : Phase → Bool
  | .abandoning _ _ => true
  | .cleaning => true
  | .releasing => true
  | .idle => true
  | _ => false

namespace QueueRuns

/-- One mutation of the table depends on another. -/
def DependsOn (store : MutationStore) (a b : String) : Prop :=
  ∃ entry ∈ store, entry.id = a ∧ b ∈ entry.dependsOn

/-- What the mutation depends on lies on a cycle, has failed or never existed. -/
def Unresolvable (store : MutationStore) (known : List String) (id : String) : Prop :=
  ∃ d, Relation.TransGen (DependsOn store) id d ∧
    (Relation.TransGen (DependsOn store) d d ∨
      (∃ entry ∈ store, entry.id = d ∧ entry.status = .failed) ∨ d ∉ known)

/-- Everything that a mutation depends on has succeeded when it is executed; what is given up
depends on something that will not succeed; and when a run has come to its end by itself, each
mutation that was pending at its beginning has been executed if all it depends on has
succeeded. -/
structure Sound (p : Processor) : Prop where
  executed : ∀ mutation ∈ p.phase.handed, ∀ d ∈ mutation.dependsOn, d ∈ p.done
  givenUp : ∀ mutation ∈ p.phase.givenUp, Unresolvable p.seen p.known mutation.id ∧
    ∃ d ∈ mutation.dependsOn, d ∉ p.done
  processed : p.phase.finished = true → p.shouldStop = false →
    ∀ entry ∈ p.opening, entry.status.waiting = true →
      (∀ d ∈ entry.dependsOn, d ∈ p.done) → entry.id ∈ p.calls

/-- **The condition.** If nothing of a batch could be processed, every pending mutation was in
it, and whatever a pending mutation waits for has not succeeded before this run and is not in
progress. -/
def Considered (p : Processor) : Event → Prop
  | .advance => ∀ pass ∈ p.phase.reading, p.shouldStop = false → pass.processable = some 0 →
      ∀ mutation ∈ getPendingMutations p.store, mutation.id ∈ batchIds p.batch ∧
        ∀ d ∈ mutation.dependsOn, d ∉ pass.completedIds → d ∉ p.done ∧ ¬ InProgress d p.store
  | _ => True

instance (p : Processor) : ∀ event, Decidable (Considered p event)
  | .advance => inferInstanceAs (Decidable (∀ pass ∈ p.phase.reading, _))
  | .process => .isTrue trivial
  | .enqueue _ => .isTrue trivial
  | .answer _ => .isTrue trivial
  | .throws _ => .isTrue trivial
  | .escape => .isTrue trivial
  | .stop => .isTrue trivial
  | .dispose => .isTrue trivial

/-- A mutation that depends only on what has succeeded is at hand. -/
structure AtWork (done : List String) (pass : Pass) (mutation : MutationEntry) : Prop where
  completed : ∀ id ∈ pass.completedIds, id ∈ done
  ready : ∀ d ∈ mutation.dependsOn, d ∈ done
  processable : pass.processable ≠ some 0

/-- What is known where the processing stands. -/
def PhaseOk (p : Processor) : Phase → Prop
  | .idle => True
  | .syncing => True
  | .listing pass => (∀ id ∈ pass.completedIds, id ∈ p.done) ∧
      (pass.processable = some 0 → p.shouldStop = true ∨
        ∀ mutation ∈ p.batch, canProcessMutation mutation pass.completedIds = false)
  | .choosing pass rest => (∀ id ∈ pass.completedIds, id ∈ p.done) ∧
      (pass.processable = some 0 → ∀ mutation ∈ p.batch,
        mutation ∈ rest ∨ canProcessMutation mutation pass.completedIds = false)
  | .attempting pass mutation n _ =>
      AtWork p.done pass mutation ∧ (n ≠ 0 → mutation.id ∈ p.calls)
  | .marked pass mutation _ _ => AtWork p.done pass mutation
  | .called pass mutation _ _ => AtWork p.done pass mutation ∧ mutation.id ∈ p.calls
  | .backingOff pass mutation _ _ => AtWork p.done pass mutation ∧ mutation.id ∈ p.calls
  | .succeeded pass mutation _ =>
      AtWork p.done pass mutation ∧ mutation.id ∈ p.calls ∧ mutation.id ∈ p.done
  | .requeueing pass mutation _ => AtWork p.done pass mutation ∧ mutation.id ∈ p.calls
  | .failing pass mutation _ => AtWork p.done pass mutation ∧ mutation.id ∈ p.calls
  | .failed pass mutation _ _ => AtWork p.done pass mutation ∧ mutation.id ∈ p.calls
  | .abandoning _ pending =>
      (∀ mutation ∈ pending, (Unresolvable p.seen p.known mutation.id ∧
        ∃ d ∈ mutation.dependsOn, d ∉ p.done) ∧ mutation.id ∈ p.known ∧
          ∀ entry ∈ p.store, entry.id = mutation.id → entry.dependsOn = mutation.dependsOn) ∧
      ∀ entry ∈ p.store, entry.status.waiting = true →
        entry.id ∈ batchIds pending ∨ entry.id ∉ p.known
  | .cleaning => p.shouldStop = true ∨
      ∀ entry ∈ p.store, entry.status.waiting = true → entry.id ∉ p.known
  | .releasing => p.shouldStop = true ∨
      ∀ entry ∈ p.store, entry.status.waiting = true → entry.id ∉ p.known

/-- What has become of a mutation that was pending at the beginning of a run. -/
def Accounted (p : Processor) (entry : MutationEntry) : Prop :=
  (∃ now ∈ p.store, now.id = entry.id ∧ now.dependsOn = entry.dependsOn ∧
      now.status.waiting = true) ∨
    (∃ mutation ∈ p.phase.handed, mutation.id = entry.id) ∨ entry.id ∈ p.calls ∨
      (p.phase.ending = true ∧ ∃ d ∈ entry.dependsOn, d ∉ p.done)

/-- What is known of all runs that meet the condition. -/
structure Depending (p : Processor) : Prop extends Batched p where
  phaseOk : PhaseOk p p.phase
  completed : ∀ entry ∈ p.store, entry.status = .completed → entry.id ∈ p.done
  stored : ∀ id ∈ p.issued, id ∈ ids p.store ∨ id ∈ p.done
  known : ∀ id ∈ p.known, id ∈ p.issued
  batch : ∀ mutation ∈ p.batch, mutation.id ∈ p.issued ∧
    ∀ entry ∈ p.store, entry.id = mutation.id → entry.dependsOn = mutation.dependsOn
  openingKnown : ∀ entry ∈ p.opening, entry.id ∈ p.known
  opening : ∀ entry ∈ p.opening, entry.status.waiting = true → Accounted p entry

theorem Depending.sound {p : Processor} (h : Depending p) : Sound p := by
  have hphase := h.phaseOk
  refine ⟨?_, ?_, ?_⟩
  · intro mutation hhanded
    cases hp : p.phase with
    | marked pass current n rest =>
        rw [hp] at hphase hhanded
        obtain rfl : current = mutation := Option.some.inj hhanded
        exact hphase.ready
    | _ =>
        rw [hp] at hhanded
        cases hhanded
  · intro mutation hgiven
    cases hp : p.phase with
    | abandoning pass pending =>
        rw [hp] at hphase hgiven
        exact (hphase.1 mutation hgiven).1
    | _ =>
        rw [hp] at hgiven
        cases hgiven
  · intro hfinished hstop entry hmem hwaiting hdeps
    have hleft : ∀ now ∈ p.store, now.status.waiting = true → now.id ∉ p.known := by
      cases hp : p.phase with
      | cleaning =>
          rw [hp] at hphase
          exact hphase.resolve_left (by simp [hstop])
      | releasing =>
          rw [hp] at hphase
          exact hphase.resolve_left (by simp [hstop])
      | _ =>
          rw [hp] at hfinished
          cases hfinished
    have hnot : p.phase.handed = none := by
      cases hp : p.phase with
      | marked pass current n rest =>
          rw [hp] at hfinished
          cases hfinished
      | _ => rfl
    rcases h.opening entry hmem hwaiting with
      ⟨now, hnow, hid, -, hstatus⟩ | ⟨mutation, hhanded, -⟩ | hcalled | ⟨-, d, hd, hundone⟩
    · exact absurd (hid ▸ h.openingKnown entry hmem) (hleft now hnow hstatus)
    · rw [hnot] at hhanded
      cases hhanded
    · exact hcalled
    · exact absurd (hdeps d hd) hundone

section Steps

variable {config : QueueConfig} {p q : Processor} {mutation entry : MutationEntry} {pass : Pass}
  {n : Nat} {rest : List MutationEntry}

/-- A step that queues nothing: mutations keep what they depend on, and are deleted or marked
as completed only when they have succeeded. -/
structure Frame (p q : Processor) : Prop where
  done : ∀ id ∈ p.done, id ∈ q.done
  issued : q.issued = p.issued
  known : q.known = p.known
  batch : q.batch = p.batch
  opening : q.opening = p.opening
  back : ∀ entry ∈ q.store, ∃ old ∈ p.store, old.id = entry.id ∧
    old.dependsOn = entry.dependsOn ∧
      (entry.status = .completed → old.status = .completed ∨ entry.id ∈ q.done)
  forth : ∀ id ∈ ids p.store, id ∈ ids q.store ∨ id ∈ q.done

theorem Frame.same (hdone : ∀ id ∈ p.done, id ∈ q.done) (hissued : q.issued = p.issued)
    (hknown : q.known = p.known) (hbatch : q.batch = p.batch) (hopening : q.opening = p.opening)
    (hstore : q.store = p.store) : Frame p q := by
  refine ⟨hdone, hissued, hknown, hbatch, hopening, ?_, ?_⟩
  · rw [hstore]
    exact fun entry hmem => ⟨entry, hmem, rfl, rfl, fun h => .inl h⟩
  · rw [hstore]
    exact fun id hid => .inl hid

theorem mem_updateStatus_dependsOn {id : String} {status : MutationStatus}
    {retryCount : Option Nat} {store : MutationStore}
    (h : entry ∈ updateStatus id status retryCount store) :
    ∃ old ∈ store, old.id = entry.id ∧ old.dependsOn = entry.dependsOn ∧
      (entry.id ≠ id → old = entry) ∧ (entry.id = id → entry.status = status) := by
  obtain ⟨old, hold, rfl⟩ := List.mem_map.1 h
  refine ⟨old, hold, ?_⟩
  by_cases hid : old.id = id
  · simp [hid]
  · simp [hid]

theorem Frame.update {id : String} {status : MutationStatus} {retryCount : Option Nat}
    (hdone : q.done = p.done) (hissued : q.issued = p.issued)
    (hknown : q.known = p.known) (hbatch : q.batch = p.batch) (hopening : q.opening = p.opening)
    (hstore : q.store = updateStatus id status retryCount p.store)
    (hcompleted : status = .completed → id ∈ p.done) : Frame p q := by
  refine ⟨by rw [hdone]; exact fun _ h => h, hissued, hknown, hbatch, hopening, ?_, ?_⟩
  · rw [hstore]
    intro entry hmem
    obtain ⟨old, hold, hid, hdeps, hother, hsame⟩ := mem_updateStatus_dependsOn hmem
    refine ⟨old, hold, hid, hdeps, ?_⟩
    intro hstatus
    by_cases heq : entry.id = id
    · rw [hdone, heq]
      exact .inr (hcompleted ((hsame heq).symm.trans hstatus))
    · rw [hother heq]
      exact .inl hstatus
  · rw [hstore, ids_updateStatus]
    exact fun id hid => .inl hid

theorem Depending.frame (h : Depending p) (hframe : Frame p q) (hbatched : Batched q)
    (hphase : PhaseOk q q.phase)
    (haccounted : ∀ entry, Accounted p entry → Accounted q entry) : Depending q := by
  refine ⟨hbatched, hphase, ?_, ?_, ?_, ?_, ?_, ?_⟩
  · intro entry hmem hstatus
    obtain ⟨old, hold, hid, -, hcompleted⟩ := hframe.back entry hmem
    rcases hcompleted hstatus with hbefore | hdone
    · exact hid ▸ hframe.done _ (h.completed old hold hbefore)
    · exact hdone
  · rw [hframe.issued]
    intro id hid
    rcases h.stored id hid with hstored | hdone
    · exact hframe.forth id hstored
    · exact .inr (hframe.done id hdone)
  · rw [hframe.known, hframe.issued]
    exact h.known
  · rw [hframe.batch, hframe.issued]
    intro mutation hmem
    obtain ⟨hissued, hdeps⟩ := h.batch mutation hmem
    refine ⟨hissued, ?_⟩
    intro entry hentry hid
    obtain ⟨old, hold, hsame, hdeps', -⟩ := hframe.back entry hentry
    rw [← hdeps']
    exact hdeps old hold (hsame.trans hid)
  · rw [hframe.opening, hframe.known]
    exact h.openingKnown
  · rw [hframe.opening]
    exact fun entry hmem hwaiting => haccounted entry (h.opening entry hmem hwaiting)

/-- A step that leaves the table alone, and hands nothing to the executor. -/
theorem Accounted.still (h : Accounted p entry) (hstore : q.store = p.store)
    (hcalls : q.calls = p.calls) (hhanded : p.phase.handed = none)
    (hending : p.phase.ending = true → q.phase.ending = true ∧ q.done = p.done) :
    Accounted q entry := by
  rcases h with hwaits | ⟨mutation, hmem, -⟩ | hcalled | ⟨hend, d, hd, hundone⟩
  · exact .inl (hstore ▸ hwaits)
  · rw [hhanded] at hmem
    cases hmem
  · exact .inr (.inr (.inl (hcalls ▸ hcalled)))
  · obtain ⟨hend', hdone⟩ := hending hend
    exact .inr (.inr (.inr ⟨hend', d, hd, by rwa [hdone]⟩))

theorem Accounted.update (h : Accounted p entry) {id : String} {status : MutationStatus}
    {retryCount : Option Nat} (hstore : q.store = updateStatus id status retryCount p.store)
    (hcalls : q.calls = p.calls) (hhanded : p.phase.handed = none)
    (hending : p.phase.ending = true → q.phase.ending = true ∧ q.done = p.done)
    (hsame : ∀ now ∈ p.store, now.id = id → now.id = entry.id →
      now.dependsOn = entry.dependsOn → Accounted q entry) : Accounted q entry := by
  rcases h with ⟨now, hmem, hid, hdeps, hwaiting⟩ | ⟨mutation, hmem, -⟩ | hcalled |
    ⟨hend, d, hd, hundone⟩
  · by_cases hnow : now.id = id
    · exact hsame now hmem hnow hid hdeps
    · refine .inl ⟨now, ?_, hid, hdeps, hwaiting⟩
      rw [hstore]
      exact mem_updateStatus_of_ne hmem hnow
  · rw [hhanded] at hmem
    cases hmem
  · exact .inr (.inr (.inl (hcalls ▸ hcalled)))
  · obtain ⟨hend', hdone⟩ := hending hend
    exact .inr (.inr (.inr ⟨hend', d, hd, by rwa [hdone]⟩))

theorem canProcess_iff {completedIds : List String} :
    canProcessMutation mutation completedIds = true ↔
      ∀ d ∈ mutation.dependsOn, d ∈ completedIds := by
  simp [canProcessMutation]

theorem mem_getPendingMutations {store : MutationStore} :
    mutation ∈ getPendingMutations store ↔
      mutation ∈ store ∧ mutation.status.waiting = true := by
  unfold getPendingMutations
  rw [mem_orderedBy, mem_select]

/-- **Giving up.** If every pending mutation was found to wait for something that has not
succeeded and is not in progress, every one of them is unresolvable. -/
theorem Depending.unresolvable (h : Depending p) {completedIds : List String}
    (hconsidered : ∀ mutation ∈ p.batch, canProcessMutation mutation completedIds = false)
    (hcond : ∀ mutation ∈ getPendingMutations p.store, mutation.id ∈ batchIds p.batch ∧
      ∀ d ∈ mutation.dependsOn, d ∉ completedIds → d ∉ p.done ∧ ¬ InProgress d p.store) :
    ∀ mutation ∈ getPendingMutations p.store, Unresolvable p.store p.issued mutation.id ∧
      ∃ d ∈ mutation.dependsOn, d ∉ p.done := by
  have hwaits : ∀ mutation ∈ getPendingMutations p.store,
      ∃ d ∈ mutation.dependsOn, d ∉ p.done ∧ ¬ InProgress d p.store := by
    intro mutation hmem
    obtain ⟨hbatch, hdeps⟩ := hcond mutation hmem
    obtain ⟨seen, hseen, hid⟩ := List.mem_map.1 hbatch
    have hsame := (h.batch seen hseen).2 mutation (mem_getPendingMutations.1 hmem).1 hid.symm
    have hnot : ¬ ∀ d ∈ seen.dependsOn, d ∈ completedIds := by
      rw [← canProcess_iff, hconsidered seen hseen]
      exact Bool.false_ne_true
    push Not at hnot
    obtain ⟨d, hd, hundone⟩ := hnot
    have hmember : d ∈ mutation.dependsOn := hsame ▸ hd
    exact ⟨d, hmember, hdeps d hmember hundone⟩
  intro mutation hmem
  refine ⟨?_, ?_⟩
  · refine @exists_cycle_or_bad String (DependsOn p.store)
      (batchIds (getPendingMutations p.store)) (fun d =>
        (∃ entry ∈ p.store, entry.id = d ∧ entry.status = .failed) ∨ d ∉ p.issued) ?_
      mutation.id (mem_batchIds hmem)
    intro id hid
    obtain ⟨pending, hpending, rfl⟩ := List.mem_map.1 hid
    obtain ⟨d, hd, hundone, hidle⟩ := hwaits pending hpending
    refine ⟨d, ⟨pending, (mem_getPendingMutations.1 hpending).1, rfl, hd⟩, ?_⟩
    by_cases hissued : d ∈ p.issued
    · obtain ⟨found, hfound, rfl⟩ := List.mem_map.1 ((h.stored d hissued).resolve_right hundone)
      cases hstatus : found.status with
      | pending =>
          exact .inl (mem_batchIds (mem_getPendingMutations.2 ⟨hfound, by rw [hstatus]; rfl⟩))
      | offlineQueued =>
          exact .inl (mem_batchIds (mem_getPendingMutations.2 ⟨hfound, by rw [hstatus]; rfl⟩))
      | inProgress => exact absurd ⟨found, hfound, rfl, hstatus⟩ hidle
      | completed => exact absurd (h.completed found hfound hstatus) hundone
      | failed => exact .inr (.inl ⟨found, hfound, rfl, hstatus⟩)
    · exact .inr (.inr hissued)
  · obtain ⟨d, hd, hundone, -⟩ := hwaits mutation hmem
    exact ⟨d, hd, hundone⟩

theorem phaseOk_windUp (h : p.shouldStop = true ∨
    ∀ entry ∈ p.store, entry.status.waiting = true → entry.id ∉ p.known) :
    PhaseOk p (windUp config pass) := by
  rcases windUp_cases config pass with heq | heq <;> exact heq ▸ h

theorem ending_windUp : (windUp config pass).ending = true := by
  rcases windUp_cases config pass with heq | heq <;> exact heq ▸ rfl

theorem Depending.listed (h : Depending p) (hcond : Considered p .advance)
    (hphase : p.phase = .listing pass) (hbatched : Batched q)
    (hq : q = { p with
      phase := SyncEngine.listed config p.shouldStop pass (getPendingMutations p.store)
      seen := p.store
      known := p.issued
      batch := p.nextBatch
        (SyncEngine.listed config p.shouldStop pass (getPendingMutations p.store)) }) :
    Depending q := by
  have hok := h.phaseOk
  rw [hphase] at hok
  obtain ⟨hcompleted, hconsidered⟩ := hok
  have hhanded : p.phase.handed = none := by rw [hphase]; rfl
  have hending : p.phase.ending = false := by rw [hphase]; rfl
  have hopening : ∀ entry ∈ p.opening, entry.id ∈ p.issued :=
    fun entry hmem => h.known _ (h.openingKnown entry hmem)
  have haccounted : ∀ phase seen known batch, ∀ entry ∈ p.opening,
      entry.status.waiting = true →
        Accounted { p with phase := phase, seen := seen, known := known, batch := batch }
          entry := by
    intro phase seen known batch entry hmem hwaiting
    exact (h.opening entry hmem hwaiting).still rfl rfl hhanded (by simp [hending])
  subst hq
  rcases listed_cases config p.shouldStop pass (getPendingMutations p.store) with
    ⟨hgo, -, hstuck, heq⟩ | ⟨hend, heq⟩ | ⟨-, -, -, heq⟩
  · rw [heq] at hbatched ⊢
    have hnone : ∀ mutation ∈ p.batch,
        canProcessMutation mutation pass.completedIds = false :=
      (hconsidered hstuck).resolve_left (by simp [hgo])
    have hunresolvable := h.unresolvable hnone (hcond pass (by rw [hphase]; rfl) hgo hstuck)
    refine ⟨hbatched, ⟨?_, ?_⟩, h.completed, h.stored, fun _ hid => hid, h.batch, hopening,
      haccounted _ _ _ _⟩
    · intro mutation hmem
      have hstored := (mem_getPendingMutations.1 hmem).1
      refine ⟨hunresolvable mutation hmem, h.issued _ (List.mem_map_of_mem hstored), ?_⟩
      intro entry hentry hid
      rw [eq_of_id h.nodup hentry hstored hid]
    · intro entry hentry hwaiting
      exact .inl (mem_batchIds (mem_getPendingMutations.2 ⟨hentry, hwaiting⟩))
  · have hbatch : p.nextBatch (windUp config pass) = p.batch := by
      rcases windUp_cases config pass with heq | heq <;> exact heq ▸ rfl
    rw [heq, hbatch] at hbatched ⊢
    refine ⟨hbatched, phaseOk_windUp ?_, h.completed, h.stored, fun _ hid => hid, h.batch,
      hopening, haccounted _ _ _ _⟩
    rcases hend with hempty | hstop
    · refine .inr ?_
      intro entry hentry hwaiting
      have hmem := mem_getPendingMutations.2 ⟨hentry, hwaiting⟩
      rw [hempty] at hmem
      cases hmem
    · exact .inl hstop
  · rw [heq] at hbatched ⊢
    refine ⟨hbatched, ⟨hcompleted, fun _ mutation hmem => .inl hmem⟩, h.completed, h.stored,
      fun _ hid => hid, ?_, hopening, haccounted _ _ _ _⟩
    intro mutation hmem
    have hstored := (mem_getPendingMutations.1
      ((topologicalSort_spec _).2 mutation (List.mem_of_mem_take hmem))).1
    refine ⟨h.issued _ (List.mem_map_of_mem hstored), ?_⟩
    intro entry hentry hid
    rw [eq_of_id h.nodup hentry hstored hid]

theorem phaseOk_choose (h : PhaseOk p (.choosing pass rest)) :
    PhaseOk p (choose config p.shouldStop pass rest) := by
  obtain ⟨hcompleted, hconsidered⟩ := h
  cases rest with
  | nil =>
      refine ⟨hcompleted, fun hstuck => .inr ?_⟩
      intro mutation hmem
      exact (hconsidered hstuck mutation hmem).resolve_left List.not_mem_nil
  | cons mutation rest =>
      rcases choose_cases config p.shouldStop pass mutation rest with
        ⟨hstop, heq⟩ | ⟨-, hunready, heq⟩ | ⟨-, hready, heq⟩
      · rw [heq]
        exact ⟨hcompleted, fun _ => .inl hstop⟩
      · rw [heq]
        refine ⟨hcompleted, ?_⟩
        intro hstuck other hmem
        rcases hconsidered hstuck other hmem with hrest | hnot
        · rcases List.mem_cons.1 hrest with hhead | htail
          · exact .inr (hhead ▸ hunready)
          · exact .inl htail
        · exact .inr hnot
      · have hmore : pass.processable.map (· + 1) ≠ some 0 := by
          cases pass.processable with
          | none => simp
          | some k => simp
        rw [heq]
        rcases attempt_cases config p.shouldStop { pass with
          processable := pass.processable.map (· + 1) } mutation 0 rest with
          ⟨-, hnext⟩ | ⟨-, -, hnext⟩
        · rw [hnext]
          exact ⟨hcompleted, fun hstuck => absurd hstuck hmore⟩
        · rw [hnext]
          refine ⟨⟨hcompleted, ?_, hmore⟩, fun hzero => absurd rfl hzero⟩
          exact fun d hd => hcompleted d (canProcess_iff.1 hready d hd)

theorem AtWork.choosing (h : AtWork p.done pass mutation) : PhaseOk p (.choosing pass rest) :=
  ⟨h.completed, fun hstuck => absurd hstuck h.processable⟩

theorem phaseOk_executed (h : AtWork p.done pass mutation) (hcalled : mutation.id ∈ p.calls)
    {outcome : Outcome} (hdone : outcome = .success → mutation.id ∈ p.done) :
    PhaseOk p (executed config pass mutation n rest outcome) := by
  cases outcome with
  | success => exact ⟨h, hcalled, hdone rfl⟩
  | failure => exact ⟨h, hcalled⟩
  | conflict => exact ⟨h, hcalled⟩
  | threw retryable =>
      rcases threw_cases config pass mutation n rest retryable with heq | ⟨-, heq⟩
      · exact heq ▸ ⟨h, hcalled⟩
      · exact heq ▸ ⟨h, hcalled⟩

theorem phaseOk_caught (h : AtWork p.done pass mutation) (hcalled : mutation.id ∈ p.calls)
    {retryable : Option Bool} :
    PhaseOk p (caught config pass mutation n rest retryable) := by
  cases retryable with
  | none => trivial
  | some retryable =>
      exact @phaseOk_executed config p mutation pass n rest h hcalled (.threw retryable)
        fun hbad => by cases hbad

theorem failedStatus_completed (config : QueueConfig) (retryCount : Nat) {P : Prop}
    (h : failedStatus config retryCount = .completed) : P := by
  unfold failedStatus at h
  split at h <;> cases h

theorem Depending.settle (h : Depending p) {status : MutationStatus} {retryCount : Option Nat}
    (hcalled : mutation.id ∈ p.calls) (hhanded : p.phase.handed = none)
    (hending : p.phase.ending = false) (hbatched : Batched q) (hphase : PhaseOk q q.phase)
    (hstore : q.store = updateStatus mutation.id status retryCount p.store)
    (hcompleted : status = .completed → mutation.id ∈ p.done) (hdone : q.done = p.done)
    (hcalls : q.calls = p.calls) (hissued : q.issued = p.issued) (hknown : q.known = p.known)
    (hbatch : q.batch = p.batch) (hopening : q.opening = p.opening) : Depending q := by
  refine h.frame (Frame.update hdone hissued hknown hbatch hopening hstore hcompleted) hbatched
    hphase ?_
  intro entry haccounted
  refine haccounted.update hstore hcalls hhanded (by simp [hending]) ?_
  intro now _ hnow hid _
  exact .inr (.inr (.inl (by rw [hcalls, ← hid, hnow]; exact hcalled)))

theorem Depending.move (h : Depending p) {phase : Phase} (hhanded : p.phase.handed = none)
    (hending : p.phase.ending = true → phase.ending = true)
    (hbatched : Batched { p with phase := phase }) (hphase : PhaseOk p phase) :
    Depending { p with phase := phase } :=
  h.frame (Frame.same (fun _ hid => hid) rfl rfl rfl rfl rfl) hbatched
    (by cases phase <;> exact hphase)
    fun _ haccounted => haccounted.still rfl rfl hhanded fun hend => ⟨hending hend, rfl⟩

theorem Depending.giveUp (h : Depending p) {pending : List MutationEntry} {phase : Phase}
    (hphase : p.phase = .abandoning pass (mutation :: pending))
    (hbatched : Batched { p with
      store := updateStatus mutation.id .failed none p.store, phase := phase })
    (hafter : phase = .abandoning pass pending ∨ phase = .idle) :
    Depending { p with
      store := updateStatus mutation.id .failed none p.store, phase := phase } := by
  have hok := h.phaseOk
  rw [hphase] at hok
  obtain ⟨hgiven, hwaiting⟩ := hok
  obtain ⟨⟨-, d, hd, hundone⟩, -, hdeps⟩ := hgiven mutation List.mem_cons_self
  have hending : phase.ending = true := by
    rcases hafter with heq | heq <;> exact heq ▸ rfl
  have hend : p.phase.ending = true := by rw [hphase]; rfl
  refine h.frame (Frame.update rfl rfl rfl rfl rfl rfl fun hbad => by cases hbad) hbatched ?_ ?_
  · rcases hafter with heq | heq
    · rw [heq]
      refine ⟨?_, ?_⟩
      · intro other hmem
        obtain ⟨hunresolvable, hknown, hsame⟩ := hgiven other (List.mem_cons_of_mem _ hmem)
        refine ⟨hunresolvable, hknown, ?_⟩
        intro entry hentry hid
        obtain ⟨old, hold, holdid, holddeps, -⟩ := mem_updateStatus_dependsOn hentry
        rw [← holddeps]
        exact hsame old hold (holdid.trans hid)
      · intro entry hentry hstatus
        rcases mem_updateStatus_cases hentry with ⟨hold, hne⟩ | ⟨-, hfailed, -⟩
        · rcases hwaiting entry hold hstatus with hpending | hunknown
          · exact .inl ((List.mem_cons.1 hpending).resolve_left hne)
          · exact .inr hunknown
        · rw [hfailed] at hstatus
          cases hstatus
    · rw [heq]
      trivial
  · intro entry haccounted
    refine haccounted.update rfl rfl (by rw [hphase]; rfl) (fun _ => ⟨hending, rfl⟩) ?_
    intro now hnow hid _ hsame
    refine .inr (.inr (.inr ⟨hending, d, ?_, hundone⟩))
    rw [← hsame, hdeps now hnow hid]
    exact hd

theorem Depending.advance (h : Depending p) (hcond : Considered p .advance)
    (hstep : advance config p = some q) : Depending q := by
  have hbatched := h.toBatched.advance hstep
  have hok := h.phaseOk
  unfold QueueRuns.advance at hstep
  generalize hphase : p.phase = phase at hstep
  cases phase with
  | idle => cases hstep
  | syncing => cases hstep
  | called pass mutation n rest => cases hstep
  | listing pass =>
      exact h.listed hcond hphase hbatched (Option.some.inj hstep).symm
  | choosing pass rest =>
      rw [hphase] at hok
      cases hstep
      exact h.move (by rw [hphase]; rfl) (by rw [hphase]; exact fun hbad => by cases hbad) hbatched
        (phaseOk_choose hok)
  | attempting pass mutation n rest =>
      rw [hphase] at hok
      cases hstep
      refine h.frame (Frame.update rfl rfl rfl rfl rfl rfl fun hbad => by cases hbad) hbatched
        hok.1 ?_
      intro entry haccounted
      refine haccounted.update rfl rfl (by rw [hphase]; rfl)
        (by rw [hphase]; exact fun hbad => by cases hbad) ?_
      intro now _ hnow hid _
      exact .inr (.inl ⟨mutation, rfl, hnow.symm.trans hid⟩)
  | marked pass mutation n rest =>
      rw [hphase] at hok
      cases hstep
      refine h.frame (Frame.same (fun _ hid => hid) rfl rfl rfl rfl rfl) hbatched
        ⟨hok, List.mem_cons_self⟩ ?_
      intro entry haccounted
      rcases haccounted with hwaits | ⟨other, hmem, hid⟩ | hcalled | ⟨hend, -⟩
      · exact .inl hwaits
      · rw [hphase] at hmem
        obtain rfl : mutation = other := Option.some.inj hmem
        exact .inr (.inr (.inl (hid ▸ List.mem_cons_self)))
      · exact .inr (.inr (.inl (List.mem_cons_of_mem _ hcalled)))
      · rw [hphase] at hend
        cases hend
  | backingOff pass mutation n rest =>
      rw [hphase] at hok
      cases hstep
      refine h.move (by rw [hphase]; rfl) (by rw [hphase]; exact fun hbad => by cases hbad)
        hbatched ?_
      rcases attempt_cases config p.shouldStop pass mutation (n + 1) rest with
        ⟨-, heq⟩ | ⟨-, -, heq⟩
      · rw [heq]
        exact hok.1.choosing
      · rw [heq]
        exact ⟨hok.1, fun _ => hok.2⟩
  | succeeded pass mutation rest =>
      rw [hphase] at hok
      obtain ⟨hwork, hcalled, hdone⟩ := hok
      cases hstep
      refine h.settle hcalled (by rw [hphase]; rfl) (by rw [hphase]; rfl) hbatched
        ⟨?_, fun hstuck => absurd hstuck hwork.processable⟩ rfl (fun _ => hdone) rfl rfl rfl rfl
        rfl rfl
      intro id hid
      rcases List.mem_cons.1 hid with hhead | htail
      · exact hhead ▸ hdone
      · exact hwork.completed id htail
  | requeueing pass mutation rest =>
      rw [hphase] at hok
      cases hstep
      exact h.settle hok.2 (by rw [hphase]; rfl) (by rw [hphase]; rfl) hbatched
        hok.1.choosing rfl (fun hbad => by cases hbad) rfl rfl rfl rfl
        rfl rfl
  | failing pass mutation rest =>
      rw [hphase] at hok
      cases hstep
      refine h.move (by rw [hphase]; rfl) (by rw [hphase]; exact fun hbad => by cases hbad)
        hbatched ?_
      cases getMutation mutation.id p.store with
      | none => exact hok.1.choosing
      | some entry => exact hok
  | failed pass mutation retryCount rest =>
      rw [hphase] at hok
      cases hstep
      exact h.settle hok.2 (by rw [hphase]; rfl) (by rw [hphase]; rfl) hbatched
        hok.1.choosing rfl (failedStatus_completed config retryCount) rfl
        rfl rfl rfl rfl rfl
  | abandoning pass pending =>
      cases pending with
      | nil =>
          rw [hphase] at hok
          cases hstep
          refine h.move (by rw [hphase]; rfl) (fun _ => ending_windUp) hbatched
            (phaseOk_windUp (.inr ?_))
          intro entry hmem hwaiting
          exact (hok.2 entry hmem hwaiting).resolve_left List.not_mem_nil
      | cons mutation pending =>
          cases hstep
          exact h.giveUp hphase hbatched (.inl rfl)
  | cleaning =>
      rw [hphase] at hok
      cases hstep
      refine h.frame ⟨fun _ hid => hid, rfl, rfl, rfl, rfl, ?_, ?_⟩ hbatched ?_ ?_
      · exact fun entry hmem => ⟨entry, (mem_select.1 hmem).1, rfl, rfl, fun hc => .inl hc⟩
      · intro id hid
        obtain ⟨entry, hmem, rfl⟩ := List.mem_map.1 hid
        by_cases hstatus : entry.status = .completed
        · exact .inr (h.completed entry hmem hstatus)
        · exact .inl (List.mem_map_of_mem (mem_select.2 ⟨hmem, hstatus⟩))
      · rcases hok with hstop | hnone
        · exact .inl hstop
        · exact .inr fun entry hmem hwaiting => hnone entry (mem_select.1 hmem).1 hwaiting
      · intro entry haccounted
        rcases haccounted with ⟨now, hmem, hid, hdeps, hwaiting⟩ | ⟨other, hmem, -⟩ | hcalled |
          ⟨-, hundone⟩
        · refine .inl ⟨now, mem_select.2 ⟨hmem, ?_⟩, hid, hdeps, hwaiting⟩
          intro hstatus
          rw [hstatus] at hwaiting
          cases hwaiting
        · rw [hphase] at hmem
          cases hmem
        · exact .inr (.inr (.inl hcalled))
        · exact .inr (.inr (.inr ⟨rfl, hundone⟩))
  | releasing =>
      cases hstep
      exact h.move (by rw [hphase]; rfl) (fun _ => rfl) hbatched trivial

theorem Depending.throws (h : Depending p) {retryable : Option Bool}
    (hstep : throws config p retryable = some q) : Depending q := by
  have hbatched := h.toBatched.throws hstep
  have hok := h.phaseOk
  rcases throws_cases hstep with ⟨pass, mutation, rest, n, hphase, -, rfl⟩ |
    ⟨pass, mutation, retryCount, rest, hphase, ⟨n, -, rfl⟩ | ⟨-, rfl⟩⟩ |
    ⟨pass, mutation, pending, hphase, rfl⟩
  · rw [hphase] at hok
    obtain ⟨hwork, hcalled, hdone⟩ := hok
    refine h.settle hcalled (by rw [hphase]; rfl) (by rw [hphase]; rfl) hbatched ?_ rfl
      (fun _ => hdone) rfl rfl rfl rfl rfl rfl
    refine phaseOk_caught ?_ ?_
    · exact ⟨hwork.completed, hwork.ready, hwork.processable⟩
    · exact hcalled
  · rw [hphase] at hok
    refine h.settle hok.2 (by rw [hphase]; rfl) (by rw [hphase]; rfl) hbatched ?_ rfl
      (failedStatus_completed config retryCount) rfl rfl rfl rfl rfl rfl
    refine phaseOk_caught ?_ ?_
    · exact hok.1
    · exact hok.2
  · rw [hphase] at hok
    exact h.settle hok.2 (by rw [hphase]; rfl) (by rw [hphase]; rfl) hbatched trivial rfl
      (failedStatus_completed config retryCount) rfl rfl rfl rfl rfl rfl
  · exact h.giveUp hphase hbatched (.inr rfl)

theorem Depending.answer (h : Depending p) {outcome : Outcome}
    (hstep : answer config p outcome = some q) : Depending q := by
  have hbatched : Batched q := @Batched.step config p q h.toBatched (.answer outcome) hstep
  have hok := h.phaseOk
  obtain ⟨pass, mutation, n, rest, hphase, rfl⟩ := answer_cases hstep
  rw [hphase] at hok
  obtain ⟨hwork, hcalled⟩ := hok
  have hmono : ∀ id ∈ p.done,
      id ∈ if outcome = .success then mutation.id :: p.done else p.done := by
    intro id hid
    split
    · exact List.mem_cons_of_mem _ hid
    · exact hid
  refine h.frame (Frame.same hmono rfl rfl rfl rfl rfl) hbatched ?_ ?_
  · refine phaseOk_executed ?_ ?_ ?_
    · exact ⟨fun id hid => hmono id (hwork.completed id hid),
        fun d hd => hmono d (hwork.ready d hd), hwork.processable⟩
    · exact hcalled
    · intro hsuccess
      show mutation.id ∈ if outcome = .success then mutation.id :: p.done else p.done
      rw [if_pos hsuccess]
      exact List.mem_cons_self
  · intro entry haccounted
    exact haccounted.still rfl rfl (by rw [hphase]; rfl)
      (by rw [hphase]; exact fun hbad => by cases hbad)

theorem Depending.stop (h : Depending p) (hbatched : Batched q) (hstop : q.shouldStop = true)
    (hphase : q.phase = p.phase) (hstore : q.store = p.store) (hdone : q.done = p.done)
    (hissued : q.issued = p.issued) (hknown : q.known = p.known) (hbatch : q.batch = p.batch)
    (hopening : q.opening = p.opening) (hseen : q.seen = p.seen) (hcalls : q.calls = p.calls) :
    Depending q := by
  have hok := h.phaseOk
  refine h.frame (Frame.same (by rw [hdone]; exact fun _ hid => hid) hissued hknown hbatch
    hopening hstore) hbatched ?_ ?_
  · rw [hphase]
    cases hp : p.phase with
    | listing pass =>
        rw [hp] at hok
        exact ⟨by rw [hdone]; exact hok.1, fun _ => .inl hstop⟩
    | cleaning => exact .inl hstop
    | releasing => exact .inl hstop
    | idle => trivial
    | syncing => trivial
    | _ =>
        rw [hp] at hok
        simpa only [PhaseOk, hdone, hbatch, hcalls, hseen, hknown, hstore] using hok
  · intro entry haccounted
    simpa only [Accounted, hphase, hdone, hcalls, hstore] using haccounted

theorem Depending.enqueue (h : Depending p) (hfresh : entry.id ∉ p.issued)
    (hstatus : entry.status = .pending)
    (hbatched : Batched { p with store := p.store ++ [entry], issued := entry.id :: p.issued }) :
    Depending { p with store := p.store ++ [entry], issued := entry.id :: p.issued } := by
  have hok := h.phaseOk
  have hunknown : entry.id ∉ p.known := fun hmem => hfresh (h.known _ hmem)
  have hstore : ∀ now ∈ p.store ++ [entry], now ∈ p.store ∨ now = entry := by
    intro now hmem
    rcases List.mem_append.1 hmem with hold | hnew
    · exact .inl hold
    · exact .inr (List.mem_singleton.1 hnew)
  refine ⟨hbatched, ?_, ?_, ?_, ?_, ?_, h.openingKnown, ?_⟩
  · show PhaseOk { p with store := p.store ++ [entry], issued := entry.id :: p.issued } p.phase
    cases hp : p.phase with
    | abandoning pass pending =>
        rw [hp] at hok
        obtain ⟨hgiven, hwaiting⟩ := hok
        refine ⟨?_, ?_⟩
        · intro mutation hmem
          obtain ⟨hunresolvable, hknown, hdeps⟩ := hgiven mutation hmem
          refine ⟨hunresolvable, hknown, ?_⟩
          intro now hnow hid
          rcases hstore now hnow with hold | rfl
          · exact hdeps now hold hid
          · exact absurd (hid ▸ hknown) hunknown
        · intro now hnow hpending
          rcases hstore now hnow with hold | rfl
          · exact hwaiting now hold hpending
          · exact .inr hunknown
    | cleaning =>
        rw [hp] at hok
        rcases hok with hstop | hnone
        · exact .inl hstop
        · refine .inr ?_
          intro now hnow hpending
          rcases hstore now hnow with hold | rfl
          · exact hnone now hold hpending
          · exact hunknown
    | releasing =>
        rw [hp] at hok
        rcases hok with hstop | hnone
        · exact .inl hstop
        · refine .inr ?_
          intro now hnow hpending
          rcases hstore now hnow with hold | rfl
          · exact hnone now hold hpending
          · exact hunknown
    | _ =>
        rw [hp] at hok
        exact hok
  · intro now hnow hcompleted
    rcases hstore now hnow with hold | rfl
    · exact h.completed now hold hcompleted
    · rw [hstatus] at hcompleted
      cases hcompleted
  · intro id hid
    rcases List.mem_cons.1 hid with rfl | hold
    · exact .inl (List.mem_map_of_mem (List.mem_append_right _ (List.mem_singleton_self _)))
    · rcases h.stored id hold with hstored | hdone
      · obtain ⟨now, hnow, rfl⟩ := List.mem_map.1 hstored
        exact .inl (List.mem_map_of_mem (List.mem_append_left _ hnow))
      · exact .inr hdone
  · exact fun id hid => List.mem_cons_of_mem _ (h.known id hid)
  · intro mutation hmem
    obtain ⟨hissued, hdeps⟩ := h.batch mutation hmem
    refine ⟨List.mem_cons_of_mem _ hissued, ?_⟩
    intro now hnow hid
    rcases hstore now hnow with hold | rfl
    · exact hdeps now hold hid
    · exact absurd (hid ▸ hissued) hfresh
  · intro first hmem hwaiting
    rcases h.opening first hmem hwaiting with ⟨now, hnow, hrest⟩ | hother
    · exact .inl ⟨now, List.mem_append_left _ hnow, hrest⟩
    · exact .inr hother

/-- **One step** under the condition. -/
theorem Depending.step (h : Depending p) {event : Event} (hcond : Considered p event)
    (hstep : step config p event = some q) : Depending q := by
  have hbatched := h.toBatched.step hstep
  cases event with
  | advance => exact h.advance hcond hstep
  | throws retryable => exact h.throws hstep
  | answer outcome => exact h.answer hstep
  | process =>
      obtain rfl := Option.some.inj hstep
      unfold process at hbatched ⊢
      by_cases hbusy : p.phase ≠ .idle ∨ p.disposed = true
      · rw [if_pos hbusy]
        exact h
      · rw [if_neg hbusy] at hbatched ⊢
        refine ⟨hbatched, ⟨fun _ hid => absurd hid List.not_mem_nil, fun hbad => by cases hbad⟩,
          h.completed, h.stored, fun _ hid => hid, h.batch,
          fun entry hmem => h.issued _ (List.mem_map_of_mem hmem), ?_⟩
        exact fun entry hmem hwaiting => .inl ⟨entry, hmem, rfl, rfl, hwaiting⟩
  | escape =>
      obtain ⟨pass, mutation, n, rest, hphase, rfl⟩ := escape_cases hstep
      exact h.move (by rcases hphase with hphase | hphase <;> rw [hphase] <;> rfl)
        (fun _ => rfl) hbatched trivial
  | stop =>
      obtain rfl := Option.some.inj hstep
      exact h.stop hbatched rfl rfl rfl rfl rfl rfl rfl rfl rfl rfl
  | dispose =>
      obtain rfl := Option.some.inj hstep
      exact h.stop hbatched rfl rfl rfl rfl rfl rfl rfl rfl rfl rfl
  | enqueue entry =>
      unfold QueueRuns.step at hstep
      by_cases hbad : entry.id ∈ p.issued ∨ entry.status ≠ .pending ∨ entry.retryCount ≠ 0
      · simp [hbad] at hstep
      · simp only [if_neg hbad, Option.some.injEq] at hstep
        subst hstep
        obtain ⟨hfresh, hrest⟩ := not_or.1 hbad
        exact h.enqueue hfresh (not_not.1 (not_or.1 hrest).1) hbatched

end Steps

/-- **Dependencies.** In every sequence of runs in which what is given up was considered, and
waits for nothing that has succeeded or is in progress, all states are sound. -/
theorem sound_of_considered (config : QueueConfig) (store : MutationStore)
    (hnodup : (ids store).Nodup) (events : List Event)
    (h : Allowed (step config) Considered (Processor.new store) events) :
    Always (step config) Sound (Processor.new store) events := by
  apply always_of_allowed Depending (fun p hinv => hinv.sound)
    (fun p event q hinv hcond hstep => hinv.step hcond hstep) events (Processor.new store) _ h
  refine ⟨batched_new hnodup, trivial, ?_, fun id hid => .inl hid, ?_, ?_, ?_, ?_⟩
  · intro entry hmem hstatus
    exact List.mem_map_of_mem (mem_select.2 ⟨hmem, hstatus⟩)
  · exact fun _ hid => absurd hid List.not_mem_nil
  · exact fun _ hmem => absurd hmem List.not_mem_nil
  · exact fun _ hmem => absurd hmem List.not_mem_nil
  · exact fun _ hmem => absurd hmem List.not_mem_nil

/-- A mutation, one that depends on it, and one that depends on none that exists. -/
def chain : List Event :=
  [.process, .advance, .advance, .advance, .advance, .answer .success, .advance,
    .advance, .advance, .advance, .answer .success, .advance, .advance, .advance,
    .advance, .advance, .advance, .advance, .advance, .advance, .advance, .advance]

theorem chain_sound :
    Allowed (step {}) Considered (Processor.new [⟨"b", 1, .pending, 0, ["a"]⟩,
      ⟨"a", 2, .pending, 0, []⟩, ⟨"c", 3, .pending, 0, ["x"]⟩]) chain ∧
    Always (step {}) Sound (Processor.new [⟨"b", 1, .pending, 0, ["a"]⟩,
      ⟨"a", 2, .pending, 0, []⟩, ⟨"c", 3, .pending, 0, ["x"]⟩]) chain :=
  ⟨by decide, sound_of_considered {} _ (by decide) chain (by decide)⟩

/-- A batch of one mutation, whose dependency does not exist. -/
def narrow : List Event := [.process, .advance, .advance, .advance, .advance]

/-- A mutation is queued after the one that it depends on has completed. -/
def later : List Event :=
  [.process, .advance, .advance, .advance, .advance, .answer .success, .advance, .advance,
    .advance, .advance, .advance, .enqueue ⟨"b", 2, .pending, 0, ["a"]⟩, .process, .advance,
    .advance, .advance, .advance]

theorem Sound.not_forall_done {p : Processor} (h : Sound p) {mutation : MutationEntry}
    (hmem : mutation ∈ p.phase.givenUp) : ¬ ∀ d ∈ mutation.dependsOn, d ∈ p.done := by
  intro hall
  obtain ⟨-, d, hd, hundone⟩ := h.givenUp mutation hmem
  exact hundone (hall d hd)

/-- **Too early.** A mutation that depends on nothing is given up because the only one in the
batch waits for ever, and one whose dependency has completed in an earlier run. -/
theorem given_up_too_early :
    (∃ p, Exec (step { batchSize := 1 }) (Processor.new [⟨"a", 1, .pending, 0, ["x"]⟩,
      ⟨"b", 2, .pending, 0, []⟩]) narrow p ∧ ¬ Sound p) ∧
    ∃ p, Exec (step {}) (Processor.new [⟨"a", 1, .pending, 0, []⟩]) later p ∧ ¬ Sound p := by
  refine ⟨?_, ?_⟩
  · obtain ⟨p, hexec, mutation, hmem, hdone⟩ := @exists_exec _ _ (step { batchSize := 1 })
      (fun p => ∃ mutation ∈ p.phase.givenUp, ∀ d ∈ mutation.dependsOn, d ∈ p.done) _ narrow
      (Processor.new [⟨"a", 1, .pending, 0, ["x"]⟩, ⟨"b", 2, .pending, 0, []⟩]) (by decide)
    exact ⟨p, hexec, fun hsound => hsound.not_forall_done hmem hdone⟩
  · obtain ⟨p, hexec, mutation, hmem, hdone⟩ := @exists_exec _ _ (step {})
      (fun p => ∃ mutation ∈ p.phase.givenUp, ∀ d ∈ mutation.dependsOn, d ∈ p.done) _ later
      (Processor.new [⟨"a", 1, .pending, 0, []⟩]) (by decide)
    exact ⟨p, hexec, fun hsound => hsound.not_forall_done hmem hdone⟩

end QueueRuns

end SyncEngine

end Zentra
