import Zentra.HarvestSteps
import Zentra.HarvestTrace

/-!
# How a harvest ends

Whatever the source, the catalog and the Relations raise, an execution catches it and ends its
run.  The run is completed in the last step only, so whatever is raised before finds it running,
and can still be recorded as a failure.

* `discover_ends`, `giveUp_records` — the body of the execution and its handlers;
* `harvest_outcome` — where the saves of the run succeed, an execution does not raise, the run
  ends, and a version is returned exactly if it is completed.
-/

open Raising Raising.Method TableRows

namespace Zentra

namespace Connector

/-- The run has not ended, and there is a row to save it to. -/
structure UnderWay (harvestRunId organizationId : UUID) (h : Harvesting) : Prop where
  running : ¬ h.run.IsTerminal
  runId : h.run.harvestRunId = harvestRunId
  ownerId : h.run.organizationId = organizationId
  stored : ∃ row ∈ h.harvestRuns, row.harvestRunId = harvestRunId ∧
    row.organizationId = organizationId

/-- How a run ends that returned a version, or none. -/
def HarvestRun.EndsAs (result : Option CatalogVersion) (run : HarvestRun) : Prop :=
  match result with
  | some version => run.phase = .completed ∧ run.catalogVersionId = some version.catalogVersionId
  | none => run.phase = .cancelled ∨ run.phase = .failed

/-- The run has ended, before it is saved. -/
structure Ended (harvestRunId organizationId : UUID) (result : Option CatalogVersion)
    (h : Harvesting) : Prop where
  ends : h.run.EndsAs result
  runId : h.run.harvestRunId = harvestRunId
  ownerId : h.run.organizationId = organizationId
  stored : ∃ row ∈ h.harvestRuns, row.harvestRunId = harvestRunId ∧
    row.organizationId = organizationId

/-- The row of the run is there, and records how the run ended. -/
structure Recorded (harvestRunId organizationId : UUID) (result : Option CatalogVersion)
    (rows : List HarvestRun) : Prop where
  stored : ∃ row ∈ rows, row.harvestRunId = harvestRunId ∧ row.organizationId = organizationId
  ends : ∀ row ∈ rows, row.harvestRunId = harvestRunId → row.organizationId = organizationId →
    row.EndsAs result

section Ending

variable {env : HarvestEnvironment} {source : DataSource}
  {peerCatalogs : List (UUID × CatalogVersion)} {harvestRunId organizationId : UUID}
  {result : Option CatalogVersion}

/-- A row of the run is there after an update that keeps the ids. -/
theorem exists_row_update {p : HarvestRun → Prop} [DecidablePred p]
    {change : HarvestRun → HarvestRun} {rows : List HarvestRun}
    (hkeep : ∀ row, p row → (change row).harvestRunId = row.harvestRunId ∧
      (change row).organizationId = row.organizationId)
    (hrow : ∃ row ∈ rows, row.harvestRunId = harvestRunId ∧
      row.organizationId = organizationId) :
    ∃ row ∈ update p change rows, row.harvestRunId = harvestRunId ∧
      row.organizationId = organizationId := by
  obtain ⟨row, hmem, hid, howner⟩ := hrow
  refine ⟨_, List.mem_map.2 ⟨row, hmem, rfl⟩, ?_⟩
  by_cases hp : p row
  · rw [if_pos hp, (hkeep row hp).1, (hkeep row hp).2]
    exact ⟨hid, howner⟩
  · rw [if_neg hp]
    exact ⟨hid, howner⟩

/-- **The work** of an execution leaves its run under way. -/
theorem underWay_invariant : WorkInvariant (UnderWay harvestRunId organizationId) where
  ticked := fun _ hunder => ⟨hunder.running, hunder.runId, hunder.ownerId, hunder.stored⟩
  called := fun _ _ hunder => ⟨hunder.running, hunder.runId, hunder.ownerId, hunder.stored⟩
  stored := fun _ _ hunder => ⟨hunder.running, hunder.runId, hunder.ownerId, hunder.stored⟩
  advanced := by
    intro h phase now hphase hunder
    have hafter : (HarvestRun.advance phase now).after h.run = h.run.advanced phase now := by
      refine (HarvestRunCall.after_eq (.advance phase now) h.run).trans ?_
      exact if_neg fun hguard => hunder.running hguard.2
    rw [hafter]
    exact ⟨hphase, hunder.runId, hunder.ownerId, hunder.stored⟩
  counted := fun _ _ hunder => ⟨hunder.running, hunder.runId, hunder.ownerId, hunder.stored⟩
  saved := fun h hunder => ⟨hunder.running, hunder.runId, hunder.ownerId,
    exists_row_update (fun _ hsaved => ⟨hsaved.1.symm, hsaved.2.symm⟩) hunder.stored⟩
  cancelled := fun _ _ hunder => ⟨hunder.running, hunder.runId, hunder.ownerId,
    exists_row_update (fun _ _ => ⟨rfl, rfl⟩) hunder.stored⟩

theorem triple_tick {good : Harvesting → Prop} (hticked : ∀ h, good h → good h.ticked) :
    Triple good tick (fun _ => good) fun _ _ => False :=
  triple_self_bind fun h hgood => Triple.bind (triple_assign fun s hs => by
    rw [hs]
    exact hticked h hgood) fun _ => triple_pure fun _ hs => hs

theorem triple_connectRuns (hsaves : env.savesRuns = true) {good : Harvesting → Prop}
    (hticked : ∀ h, good h → good h.ticked) :
    Triple good (connectRuns env) (fun _ => good) fun _ _ => False := by
  refine (triple_tick hticked).bind fun moment => ?_
  cases env.faults moment with
  | none => exact triple_pure fun _ hs => hs
  | some message =>
      rw [hsaves]
      exact triple_pure fun _ hs => hs

/-- **The last save** records the end of the run, and does not fail. -/
theorem saveRun_records (hsaves : env.savesRuns = true) :
    Triple (Ended harvestRunId organizationId result) (saveRun env)
      (fun _ h => Recorded harvestRunId organizationId result h.harvestRuns)
      fun _ _ => False := by
  have hticked : ∀ h, Ended harvestRunId organizationId result h →
      Ended harvestRunId organizationId result h.ticked :=
    fun _ hended => ⟨hended.ends, hended.runId, hended.ownerId, hended.stored⟩
  refine (triple_connectRuns hsaves hticked).bind fun _ => triple_assign fun h hended => ?_
  refine ⟨exists_row_update (fun _ hsaved => ⟨hsaved.1.symm, hsaved.2.symm⟩) hended.stored, ?_⟩
  intro row hmem hid howner
  obtain ⟨old, -, rfl⟩ := List.mem_map.1 hmem
  by_cases hsaved : h.run.SavedTo old
  · rw [if_pos hsaved]
    have hends := hended.ends
    cases result with
    | none => exact hends
    | some version => exact hends
  · rw [if_neg hsaved] at hid howner
    exact absurd ⟨hid.trans hended.runId.symm, howner.trans hended.ownerId.symm⟩ hsaved

theorem onRun_ends {refusal : HarvestRun → HarvestTransitionError}
    {change : HarvestRun → HarvestRun}
    (hkeep : ∀ run, (change run).harvestRunId = run.harvestRunId ∧
      (change run).organizationId = run.organizationId)
    (hends : ∀ run, (change run).EndsAs result) :
    Triple (UnderWay harvestRunId organizationId)
      (onRun (raiseIf HarvestRun.IsTerminal refusal >>= fun _ => assign change))
      (fun _ => Ended harvestRunId organizationId result) fun _ _ => False := by
  intro h hunder
  have hcall : (raiseIf HarvestRun.IsTerminal refusal >>= fun _ => assign change).call h.run =
      (.ok (), change h.run) := by
    rw [call_raiseIf_bind, if_neg hunder.running]
    rfl
  have hrun : (onRun (raiseIf HarvestRun.IsTerminal refusal >>= fun _ => assign change)).call h =
      (.ok (), h.withRun (change h.run)) := by
    simp only [Method.call] at hcall
    simp only [Method.call, onRun, zoom, hcall]
  rw [hrun]
  exact ⟨hends h.run, (hkeep h.run).1.trans hunder.runId, (hkeep h.run).2.trans hunder.ownerId,
    hunder.stored⟩

theorem clock_onRun_saveRun {α : Type} {value : α} (hsaves : env.savesRuns = true)
    {refusal : HarvestRun → HarvestTransitionError} {change : Int → HarvestRun → HarvestRun}
    (hkeep : ∀ now run, (change now run).harvestRunId = run.harvestRunId ∧
      (change now run).organizationId = run.organizationId)
    (hends : ∀ now run, (change now run).EndsAs result) :
    Triple (UnderWay harvestRunId organizationId)
      (do
        let now ← clockNow env
        onRun (raiseIf HarvestRun.IsTerminal refusal >>= fun _ => assign (change now))
        saveRun env
        return value)
      (fun returned h => returned = value ∧
        Recorded harvestRunId organizationId result h.harvestRuns) fun _ _ => False := by
  have hclock : Triple (UnderWay harvestRunId organizationId) (clockNow env)
      (fun _ => UnderWay harvestRunId organizationId) fun _ _ => False :=
    (triple_tick underWay_invariant.ticked).bind fun _ => triple_pure fun _ hs => hs
  apply hclock.bind
  intro now
  apply (onRun_ends (hkeep now) (hends now)).bind
  intro _
  apply (saveRun_records hsaves).bind
  intro _
  exact triple_pure fun _ hs => ⟨rfl, hs⟩

/-- **The handlers** end the run, and return no version. -/
theorem giveUp_records (hsaves : env.savesRuns = true) (e : HarvestException) :
    Triple (UnderWay harvestRunId organizationId) (giveUp env e)
      (fun returned h => returned = none ∧
        Recorded harvestRunId organizationId none h.harvestRuns) fun _ _ => False := by
  cases e with
  | cancelled =>
      exact clock_onRun_saveRun hsaves (fun _ _ => ⟨rfl, rfl⟩) fun _ _ => .inl rfl
  | exception message =>
      exact clock_onRun_saveRun hsaves (fun _ _ => ⟨rfl, rfl⟩) fun _ _ => .inr rfl

/-- **From the version on**, the run is under way until the last step completes it. -/
theorem record_ends (hsaves : env.savesRuns = true) (version : CatalogVersion) :
    Triple (UnderWay harvestRunId organizationId) (record env source peerCatalogs version)
      (fun returned h => Recorded harvestRunId organizationId (some returned) h.harvestRuns)
      fun _ => UnderWay harvestRunId organizationId := by
  have hwork : WorkInvariant (UnderWay harvestRunId organizationId) := underWay_invariant
  refine Triple.bind (hwork.write _) fun _ => ?_
  refine Triple.bind hwork.clockNow fun reconciledAt => ?_
  refine Triple.bind (hwork.reconcilePrevious _ _ _) fun suppressed => ?_
  refine Triple.bind (hwork.inferRelations _ _ _ _) fun _ => ?_
  refine Triple.bind hwork.checkpoint fun _ => ?_
  have hend : Triple (UnderWay harvestRunId organizationId)
      (do
        let completedAt ← clockNow env
        onRun (HarvestRun.complete version.catalogVersionId completedAt)
        saveRun env
        return version)
      (fun returned h => returned = version ∧
        Recorded harvestRunId organizationId (some version) h.harvestRuns) fun _ _ => False :=
    clock_onRun_saveRun hsaves (fun _ _ => ⟨rfl, rfl⟩) fun _ _ => ⟨rfl, rfl⟩
  exact hend.conseq (fun _ hs => hs) (fun _ _ hs => hs.1 ▸ hs.2) fun _ _ hs => hs.elim

/-- **The body** of an execution records a completed run, or raises while it is under way. -/
theorem discover_ends (hsaves : env.savesRuns = true) :
    Triple (UnderWay harvestRunId organizationId) (discover env source peerCatalogs)
      (fun version h => Recorded harvestRunId organizationId (some version) h.harvestRuns)
      fun _ => UnderWay harvestRunId organizationId := by
  have hwork : WorkInvariant (UnderWay harvestRunId organizationId) := underWay_invariant
  refine Triple.bind (hwork.advance (by decide)) fun _ => ?_
  refine Triple.bind hwork.checkpoint fun _ => ?_
  refine Triple.bind hwork.describeTables fun described => ?_
  refine Triple.bind hwork.checkpoint fun _ => ?_
  refine Triple.bind (hwork.profileFields _ _) fun tables => ?_
  refine Triple.bind hwork.checkpoint fun _ => ?_
  refine Triple.bind hwork.newId fun catalogVersionId => ?_
  refine Triple.bind hwork.clockNow fun createdAt => ?_
  apply triple_self_bind
  intro harvesting hunder
  refine (record_ends hsaves _).conseq ?_ (fun _ _ hs => hs) fun _ _ hs => hs
  intro s hs
  rw [hs]
  exact hunder

/-- **The outcome** of an execution whose run is saved: it returns, and the run has ended. -/
theorem executeHarvest_ends (hsaves : env.savesRuns = true) :
    Triple (UnderWay harvestRunId organizationId) (executeHarvest env source peerCatalogs)
      (fun result h => Recorded harvestRunId organizationId result h.harvestRuns)
      fun _ _ => False := by
  have hbody : Triple (UnderWay harvestRunId organizationId)
      (do
        let version ← discover env source peerCatalogs
        return some version)
      (fun result h => Recorded harvestRunId organizationId result h.harvestRuns)
      fun _ => UnderWay harvestRunId organizationId :=
    (discover_ends hsaves).bind fun version => triple_pure fun _ hs => hs
  refine hbody.catching fun e => ?_
  exact (giveUp_records hsaves e).conseq (fun _ hs => hs) (fun _ _ hs => hs.1 ▸ hs.2)
    fun _ _ hs => hs

/-- **Exception safety.**  Whatever the source and the database raise, where the saves of the run
succeed the execution returns, the row of the run is terminal, and a version is returned exactly
if the row is completed. -/
theorem harvest_outcome (env : HarvestEnvironment) (source : DataSource)
    (peerCatalogs : List (UUID × CatalogVersion)) (harvesting : Harvesting)
    (hsaves : env.savesRuns = true) (hrunning : ¬ harvesting.run.IsTerminal)
    (hrow : ∃ row ∈ harvesting.harvestRuns, harvesting.run.SavedTo row) :
    ∃ result done, (executeHarvest env source peerCatalogs).call harvesting =
        (.ok result, done) ∧
      (∃ row ∈ done.harvestRuns, harvesting.run.SavedTo row) ∧
      ∀ row ∈ done.harvestRuns, harvesting.run.SavedTo row →
        row.IsTerminal ∧ (result.isSome ↔ row.phase = .completed) ∧
          ∀ version ∈ result, row.catalogVersionId = some version.catalogVersionId := by
  have hunder : UnderWay harvesting.run.harvestRunId harvesting.run.organizationId harvesting :=
    ⟨hrunning, rfl, rfl, hrow⟩
  rcases hcall : (executeHarvest env source peerCatalogs).call harvesting with ⟨e | result, done⟩
  · exact ((executeHarvest_ends hsaves).raises hunder hcall).elim
  · have hrecorded := (executeHarvest_ends hsaves).returns hunder hcall
    refine ⟨result, done, rfl, hrecorded.stored, ?_⟩
    intro row hmem hsaved
    have hended := hrecorded.ends row hmem hsaved.1 hsaved.2
    cases result with
    | none =>
        obtain hphase | hphase := hended
        · exact ⟨by unfold HarvestRun.IsTerminal; rw [hphase]; decide, by simp [hphase], by simp⟩
        · exact ⟨by unfold HarvestRun.IsTerminal; rw [hphase]; decide, by simp [hphase], by simp⟩
    | some version =>
        obtain ⟨hphase, hversion⟩ := hended
        refine ⟨by unfold HarvestRun.IsTerminal; rw [hphase]; decide, by simp [hphase], ?_⟩
        intro returned hreturned
        rw [Option.mem_some_iff.1 hreturned] at hversion
        exact hversion

end Ending

/-- A new run over the shop, with its row, whose database fails whenever it is not the run that
is saved. -/
def failingShop : HarvestEnvironment :=
  { shopEnvironment with faults := fun _ => some "connection lost", savesRuns := true }

theorem failingShop_ends :
    ∃ result done, (executeHarvest failingShop shop []).call shrunkHarvesting =
        (.ok result, done) ∧
      (∃ row ∈ done.harvestRuns, shrunkHarvesting.run.SavedTo row) ∧
      ∀ row ∈ done.harvestRuns, shrunkHarvesting.run.SavedTo row →
        row.IsTerminal ∧ (result.isSome ↔ row.phase = .completed) ∧
          ∀ version ∈ result, row.catalogVersionId = some version.catalogVersionId :=
  harvest_outcome failingShop shop [] shrunkHarvesting rfl (by decide) (by decide)

end Connector

end Zentra
