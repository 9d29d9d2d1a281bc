import Zentra.HarvestExecution

/-!
# The phases of a harvest that leave the catalog alone

Up to the new version, and between the writes after it, an execution works on its run and
asks the source; it does not write to the catalog.

* `keeps_describeTables`, `keeps_profileFields` — the phases before the version;
* `giveUp_triple` — the end of an execution that is cancelled or fails.
-/

open Raising Raising.Method

namespace Zentra

namespace Connector

variable {env : HarvestEnvironment}

/-- What is read of an execution is neither the number of its moment nor the rows of the
runs. -/
structure Aside {γ : Type} (view : Harvesting → γ) : Prop where
  ticked : ∀ harvesting, view harvesting.ticked = view harvesting
  savingRun : ∀ harvesting, view harvesting.savingRun = view harvesting

theorem aside_store : Aside Harvesting.store := ⟨fun _ => rfl, fun _ => rfl⟩

section Moments

variable {γ : Type} {view : Harvesting → γ}

theorem Aside.keeps_tick (h : Aside view) : Keeps view tick := by
  apply keeps_self.bind
  intro harvesting
  exact keeps_assign_bind h.ticked keeps_pure

theorem Aside.keeps_clockNow (h : Aside view) : Keeps view (clockNow env) :=
  h.keeps_tick.bind fun _ => keeps_pure

theorem Aside.keeps_newId (h : Aside view) : Keeps view (newId env) :=
  h.keeps_tick.bind fun _ => keeps_pure

theorem Aside.keeps_connect (h : Aside view) : Keeps view (connect env) := by
  apply h.keeps_tick.bind
  intro moment
  cases env.faults moment with
  | none => exact keeps_pure
  | some message => exact keeps_raise

theorem Aside.keeps_connectRuns (h : Aside view) : Keeps view (connectRuns env) := by
  apply h.keeps_tick.bind
  intro moment
  cases env.faults moment with
  | none => exact keeps_pure
  | some message =>
      cases env.savesRuns with
      | true => exact keeps_pure
      | false => exact keeps_raise

theorem Aside.keeps_saveRun (h : Aside view) : Keeps view (saveRun env) := by
  apply h.keeps_connectRuns.bind
  intro _
  exact keeps_assign h.savingRun

end Moments

theorem keeps_tick : Keeps Harvesting.store tick := aside_store.keeps_tick

theorem keeps_clockNow : Keeps Harvesting.store (clockNow env) := aside_store.keeps_clockNow

theorem keeps_newId : Keeps Harvesting.store (newId env) := aside_store.keeps_newId

theorem keeps_connect : Keeps Harvesting.store (connect env) := aside_store.keeps_connect

theorem keeps_saveRun : Keeps Harvesting.store (saveRun env) := aside_store.keeps_saveRun

theorem keeps_onRun (method : Method HarvestRun HarvestTransitionError Unit) :
    Keeps Harvesting.store (onRun method) :=
  keeps_zoom fun _ _ => rfl

theorem keeps_advance (phase : HarvestPhase) :
    Keeps Harvesting.store (advance env phase) := by
  apply keeps_clockNow.bind
  intro now
  apply (keeps_onRun _).bind
  intro _
  exact keeps_saveRun

theorem keeps_checkpoint : Keeps Harvesting.store (checkpoint env) := by
  apply keeps_tick.bind
  intro moment
  refine keeps_assign_bind (fun _ => rfl) ?_
  apply keeps_connect.bind
  intro _
  exact keeps_raiseIf

theorem keeps_describedFields (tableId : UUID) (columns : List SourceFieldDescriptor) :
    Keeps Harvesting.store (describedFields env tableId columns) := by
  induction columns with
  | nil => exact keeps_pure
  | cons column rest ih =>
      apply keeps_newId.bind
      intro fieldId
      apply ih.bind
      intro fields
      exact keeps_pure

theorem keeps_describeEach (descriptors : List SourceTableDescriptor)
    (tables : List SourceTable) (unreadable : List UnreadableTable) :
    Keeps Harvesting.store (describeEach env descriptors tables unreadable) := by
  induction descriptors generalizing tables unreadable with
  | nil => exact keeps_pure
  | cons descriptor rest ih =>
      apply keeps_checkpoint.bind
      intro _
      apply keeps_self.bind
      intro harvesting
      split
      · exact keeps_pure
      · refine keeps_assign_bind (fun _ => rfl) ?_
        split
        · refine keeps_assign_bind (fun _ => rfl) ?_
          apply keeps_saveRun.bind
          intro _
          exact ih _ _
        · refine keeps_assign_bind (fun _ => rfl) ?_
          apply keeps_newId.bind
          intro tableId
          apply (keeps_describedFields _ _).bind
          intro fields
          refine keeps_assign_bind (fun _ => rfl) ?_
          apply keeps_saveRun.bind
          intro _
          exact ih _ _

theorem keeps_describeTables : Keeps Harvesting.store (describeTables env) := by
  apply (keeps_advance _).bind
  intro _
  apply keeps_self.bind
  intro harvesting
  refine keeps_assign_bind (fun _ => rfl) ?_
  apply keeps_eval.bind
  intro descriptors
  refine keeps_assign_bind (fun _ => rfl) ?_
  refine keeps_assign_bind (fun _ => rfl) ?_
  apply keeps_saveRun.bind
  intro _
  apply (keeps_advance _).bind
  intro _
  exact keeps_describeEach _ _ _

theorem keeps_profileField (table : SourceTable) (storeSampleValues : Bool)
    (field : SourceField) :
    Keeps Harvesting.store (profileField env table storeSampleValues field) := by
  apply keeps_self.bind
  intro harvesting
  split
  · exact keeps_pure
  · refine keeps_assign_bind (fun _ => rfl) ?_
    split
    · exact keeps_pure
    · refine keeps_assign_bind (fun _ => rfl) ?_
      refine keeps_assign_bind (fun _ => rfl) ?_
      apply keeps_saveRun.bind
      intro _
      exact keeps_pure

theorem keeps_profileEach (table : SourceTable) (storeSampleValues : Bool)
    (fields : List SourceField) :
    Keeps Harvesting.store (profileEach env table storeSampleValues fields) := by
  induction fields with
  | nil => exact keeps_pure
  | cons field rest ih =>
      apply (keeps_profileField _ _ _).bind
      intro profiled
      apply ih.bind
      intro fields
      exact keeps_pure

theorem keeps_profileTables (storeSampleValues : Bool) (tables : List SourceTable) :
    Keeps Harvesting.store (profileTables env storeSampleValues tables) := by
  induction tables with
  | nil => exact keeps_pure
  | cons table rest ih =>
      apply keeps_checkpoint.bind
      intro _
      apply (keeps_profileEach _ _ _).bind
      intro fields
      apply ih.bind
      intro tables
      exact keeps_pure

theorem keeps_profileFields (tables : List SourceTable) (storeSampleValues : Bool) :
    Keeps Harvesting.store (profileFields env tables storeSampleValues) := by
  apply (keeps_advance _).bind
  intro _
  exact keeps_profileTables _ _

theorem giveUp_triple (good : CatalogStore → Prop) (e : HarvestException) :
    Triple (fun h => good h.store) (giveUp env e)
      (fun result h => result = none ∧ good h.store) fun _ h => good h.store := by
  cases e with
  | cancelled =>
      refine keeps_clockNow.bind_preserves good (fun _ _ h => h) fun now => ?_
      refine (keeps_onRun _).bind_preserves good (fun _ _ h => h) fun _ => ?_
      refine keeps_saveRun.bind_preserves good (fun _ _ h => h) fun _ => ?_
      exact triple_pure fun s hs => ⟨rfl, hs⟩
  | exception message =>
      refine keeps_clockNow.bind_preserves good (fun _ _ h => h) fun now => ?_
      refine (keeps_onRun _).bind_preserves good (fun _ _ h => h) fun _ => ?_
      refine keeps_saveRun.bind_preserves good (fun _ _ h => h) fun _ => ?_
      exact triple_pure fun s hs => ⟨rfl, hs⟩

end Connector

end Zentra
