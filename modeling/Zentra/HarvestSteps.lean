import Zentra.HarvestFrame

/-!
# Invariants of an execution

An execution changes its run by the methods of a run and by counting, it saves the run,
and it reads its row for a request to cancel.  What each of these keeps, the whole
execution keeps, however it ends.

* `WorkInvariant` — what is kept by the work of an execution, before the run ends;
* `HarvestInvariant` — what is kept by everything an execution does.
-/

open Raising Raising.Method

namespace Zentra

namespace Connector

def HarvestRun.progress (run : HarvestRun) : HarvestProgress where
  budget := run.budget
  tablesFound := run.tablesFound
  fieldsDescribed := run.fieldsDescribed
  fieldsProfiled := run.fieldsProfiled
  relationsProposed := run.relationsProposed
  unreadableCount := run.unreadableCount
  fieldsUnexamined := run.fieldsUnexamined
  unexaminedReasons := run.unexaminedReasons

/-- A property of an execution that its work keeps: all that it does before the run ends. -/
structure WorkInvariant (good : Harvesting → Prop) : Prop where
  ticked : ∀ h, good h → good h.ticked
  called : ∀ h call, good h → good (h.called call)
  stored : ∀ h store, good h → good (h.withStore store)
  advanced : ∀ h phase now, phase ∉ terminalPhases → good h →
    good (h.withRun ((HarvestRun.advance phase now).after h.run))
  counted : ∀ h progress, good h → good (h.withRun (h.run.counting progress))
  saved : ∀ h, good h → good h.savingRun
  cancelled : ∀ h lands, good h → good (h.cancellation lands)

/-- A property of an execution that everything it does keeps. -/
structure HarvestInvariant (good : Harvesting → Prop) : Prop where
  ticked : ∀ h, good h → good h.ticked
  called : ∀ h call, good h → good (h.called call)
  stored : ∀ h store, good h → good (h.withStore store)
  moved : ∀ h (call : HarvestRunCall), call ≠ .requestCancellation → good h →
    good (h.withRun (call.method.after h.run))
  saved : ∀ h, good h → good h.savingRun
  cancelled : ∀ h lands, good h → good (h.cancellation lands)

theorem HarvestInvariant.work {good : Harvesting → Prop} (h : HarvestInvariant good) :
    WorkInvariant good where
  ticked := h.ticked
  called := h.called
  stored := h.stored
  advanced := fun harvesting phase now _ => h.moved harvesting (.advance phase now) (by simp)
  counted := fun harvesting progress => h.moved harvesting (.count progress) (by simp)
  saved := h.saved
  cancelled := h.cancelled

/-- The method keeps the property, whether it returns or raises. -/
def Preserves {α : Type} (good : Harvesting → Prop) (m : HarvestMethod α) : Prop :=
  Triple good m (fun _ => good) fun _ => good

section Rules

variable {good : Harvesting → Prop} {α β : Type} {env : HarvestEnvironment}

theorem preserves_pure {a : α} : Preserves good (pure a) := triple_pure fun _ h => h

theorem preserves_raise {e : HarvestException} : Preserves good (raise e : HarvestMethod α) :=
  triple_raise fun _ h => h

theorem preserves_eval {r : Except HarvestException α} : Preserves good (eval r) := by
  intro s hs
  cases r with
  | ok a => exact hs
  | error e => exact hs

theorem preserves_assign {f : Harvesting → Harvesting} (h : ∀ s, good s → good (f s)) :
    Preserves good (assign f : HarvestMethod Unit) := triple_assign h

theorem preserves_raiseIf {p : Harvesting → Prop} [DecidablePred p]
    {e : Harvesting → HarvestException} : Preserves good (raiseIf p e) := by
  intro s hs
  by_cases hp : p s
  · simpa [call, raiseIf, hp, Outcome] using hs
  · simpa [call, raiseIf, hp, Outcome] using hs

theorem Preserves.bind {m : HarvestMethod α} {f : α → HarvestMethod β}
    (hm : Preserves good m) (hf : ∀ a, Preserves good (f a)) : Preserves good (m >>= f) :=
  Triple.bind hm hf

theorem preserves_self_bind {f : Harvesting → HarvestMethod β}
    (hf : ∀ h, Preserves good (f h)) : Preserves good (self >>= f) :=
  fun s hs => hf s s hs

end Rules

theorem preserves_onRun {good : Harvesting → Prop}
    {method : Method HarvestRun HarvestTransitionError Unit}
    (hkeep : ∀ s, good s → good (s.withRun (method.after s.run))) :
    Preserves good (onRun method) := by
  intro s hs
  have hafter := hkeep s hs
  rcases hcalled : method.call s.run with ⟨e | a, run⟩
  · have hrun : method.after s.run = run := congrArg Prod.snd hcalled
    rw [hrun] at hafter
    simp only [Method.call] at hcalled
    simpa [Method.call, Connector.onRun, zoom, hcalled, Outcome] using hafter
  · have hrun : method.after s.run = run := congrArg Prod.snd hcalled
    rw [hrun] at hafter
    simp only [Method.call] at hcalled
    simpa [Method.call, Connector.onRun, zoom, hcalled, Outcome] using hafter

namespace WorkInvariant

variable {good : Harvesting → Prop} {env : HarvestEnvironment} (h : WorkInvariant good)

include h

theorem counting {f : Harvesting → HarvestRun}
    (hf : ∀ harvesting, f harvesting = harvesting.run.counting (f harvesting).progress) :
    Preserves good (assign fun harvesting => harvesting.withRun (f harvesting)) := by
  apply preserves_assign
  intro harvesting hgood
  rw [hf]
  exact h.counted harvesting (f harvesting).progress hgood

theorem spent : Preserves good (assign Harvesting.spent) := h.counting fun _ => rfl

theorem calling (call : ConnectorCall) : Preserves good (assign (·.called call)) :=
  preserves_assign fun harvesting hgood => h.called harvesting call hgood

theorem tick : Preserves good tick :=
  preserves_self_bind fun _ => (preserves_assign h.ticked).bind fun _ => preserves_pure

theorem clockNow : Preserves good (clockNow env) := h.tick.bind fun _ => preserves_pure

theorem newId : Preserves good (newId env) := h.tick.bind fun _ => preserves_pure

theorem connect : Preserves good (connect env) := by
  apply h.tick.bind
  intro moment
  cases env.faults moment with
  | none => exact preserves_pure
  | some message => exact preserves_raise

theorem connectRuns : Preserves good (connectRuns env) := by
  apply h.tick.bind
  intro moment
  cases env.faults moment with
  | none => exact preserves_pure
  | some message =>
      cases env.savesRuns with
      | true => exact preserves_pure
      | false => exact preserves_raise

theorem saveRun : Preserves good (saveRun env) :=
  h.connectRuns.bind fun _ => preserves_assign h.saved

theorem advance {phase : HarvestPhase} (hphase : phase ∉ terminalPhases) :
    Preserves good (advance env phase) := by
  apply h.clockNow.bind
  intro now
  apply (preserves_onRun fun s => h.advanced s phase now hphase).bind
  intro _
  exact h.saveRun

theorem checkpoint : Preserves good (checkpoint env) := by
  apply h.tick.bind
  intro moment
  apply (preserves_assign fun s hs => h.cancelled s _ hs).bind
  intro _
  apply h.connect.bind
  intro _
  exact preserves_raiseIf

theorem write (change : CatalogStore → Except String CatalogStore) :
    Preserves good (write env change) := by
  apply h.connect.bind
  intro _
  apply preserves_self_bind
  intro harvesting
  cases change harvesting.store with
  | ok store => exact preserves_assign fun s hs => h.stored s store hs
  | error message => exact preserves_raise

theorem describedFields (tableId : UUID) (columns : List SourceFieldDescriptor) :
    Preserves good (describedFields env tableId columns) := by
  induction columns with
  | nil => exact preserves_pure
  | cons column rest ih =>
      apply h.newId.bind
      intro fieldId
      apply ih.bind
      intro fields
      exact preserves_pure

theorem describeEach (descriptors : List SourceTableDescriptor) (tables : List SourceTable)
    (unreadable : List UnreadableTable) :
    Preserves good (describeEach env descriptors tables unreadable) := by
  induction descriptors generalizing tables unreadable with
  | nil => exact preserves_pure
  | cons descriptor rest ih =>
      apply h.checkpoint.bind
      intro _
      apply preserves_self_bind
      intro harvesting
      split
      · exact preserves_pure
      · apply (h.calling _).bind
        intro _
        split
        · apply (h.counting fun _ => rfl).bind
          intro _
          apply h.saveRun.bind
          intro _
          exact ih _ _
        · apply h.spent.bind
          intro _
          apply h.newId.bind
          intro tableId
          apply (h.describedFields _ _).bind
          intro fields
          apply (h.counting fun _ => rfl).bind
          intro _
          apply h.saveRun.bind
          intro _
          exact ih _ _

theorem describeTables : Preserves good (describeTables env) := by
  apply (h.advance (by decide)).bind
  intro _
  apply preserves_self_bind
  intro harvesting
  apply (h.calling _).bind
  intro _
  apply preserves_eval.bind
  intro descriptors
  apply h.spent.bind
  intro _
  apply (h.counting fun _ => rfl).bind
  intro _
  apply h.saveRun.bind
  intro _
  apply (h.advance (by decide)).bind
  intro _
  exact h.describeEach _ _ _

theorem profileField (table : SourceTable) (storeSampleValues : Bool)
    (field : SourceField) : Preserves good (profileField env table storeSampleValues field) := by
  apply preserves_self_bind
  intro harvesting
  split
  · exact preserves_pure
  · apply (h.calling _).bind
    intro _
    split
    · exact preserves_pure
    · apply h.spent.bind
      intro _
      apply (h.counting fun _ => rfl).bind
      intro _
      apply h.saveRun.bind
      intro _
      exact preserves_pure

theorem profileEach (table : SourceTable) (storeSampleValues : Bool)
    (fields : List SourceField) :
    Preserves good (profileEach env table storeSampleValues fields) := by
  induction fields with
  | nil => exact preserves_pure
  | cons field rest ih =>
      apply (h.profileField _ _ _).bind
      intro profiled
      apply ih.bind
      intro fields
      exact preserves_pure

theorem profileTables (storeSampleValues : Bool) (tables : List SourceTable) :
    Preserves good (profileTables env storeSampleValues tables) := by
  induction tables with
  | nil => exact preserves_pure
  | cons table rest ih =>
      apply h.checkpoint.bind
      intro _
      apply (h.profileEach _ _ _).bind
      intro fields
      apply ih.bind
      intro tables
      exact preserves_pure

theorem profileFields (tables : List SourceTable) (storeSampleValues : Bool) :
    Preserves good (profileFields env tables storeSampleValues) := by
  apply (h.advance (by decide)).bind
  intro _
  exact h.profileTables _ _

theorem saveEach (relations : List Relation) : Preserves good (saveEach env relations) := by
  induction relations with
  | nil => exact preserves_pure
  | cons relation rest ih =>
      apply (h.write _).bind
      intro _
      exact ih

theorem reconcilePrevious (source : DataSource) (version : CatalogVersion) (now : Int) :
    Preserves good (reconcilePrevious env source version now) := by
  apply h.connect.bind
  intro _
  apply preserves_self_bind
  intro harvesting
  extract_lets previous
  split
  · exact preserves_pure
  · apply preserves_eval.bind
    intro outcome
    apply (h.saveEach _).bind
    intro _
    exact preserves_pure

theorem inferEach (version : CatalogVersion) (passedOver : Finset (Sym2 FieldIdentity))
    (candidates : List CandidatePair) (proposals : List Relation) :
    Preserves good (inferEach env version passedOver candidates proposals) := by
  induction candidates generalizing proposals with
  | nil => exact preserves_pure
  | cons candidate rest ih =>
      apply h.checkpoint.bind
      intro _
      apply preserves_self_bind
      intro harvesting
      split
      · exact preserves_pure
      · split
        · exact ih _
        · apply (h.calling _).bind
          intro _
          split
          · exact ih _
          · apply h.spent.bind
            intro _
            split
            · exact ih _
            · apply h.newId.bind
              intro relationId
              apply h.clockNow.bind
              intro now
              exact ih _

theorem addProposals (proposals : List Relation) :
    Preserves good (addProposals env proposals) := by
  unfold Connector.addProposals
  split
  · exact preserves_pure
  · exact h.write _

theorem inferRelations (source : DataSource) (version : CatalogVersion)
    (peerCatalogs : List (UUID × CatalogVersion)) (suppressed : Finset (Sym2 FieldIdentity)) :
    Preserves good (inferRelations env source version peerCatalogs suppressed) := by
  apply (h.advance (by decide)).bind
  intro _
  apply (h.counting fun _ => rfl).bind
  intro _
  apply h.connect.bind
  intro _
  apply preserves_self_bind
  intro harvesting
  apply (h.inferEach _ _ _ _).bind
  intro found
  apply (h.addProposals _).bind
  intro _
  apply (h.counting fun _ => rfl).bind
  intro _
  exact h.saveRun

end WorkInvariant

namespace HarvestInvariant

variable {good : Harvesting → Prop} {env : HarvestEnvironment} (h : HarvestInvariant good)

include h

theorem onRun (call : HarvestRunCall) (hcall : call ≠ .requestCancellation) :
    Preserves good (onRun call.method) :=
  preserves_onRun fun s => h.moved s call hcall

theorem record (source : DataSource) (peerCatalogs : List (UUID × CatalogVersion))
    (version : CatalogVersion) : Preserves good (record env source peerCatalogs version) := by
  apply (h.work.write _).bind
  intro _
  apply h.work.clockNow.bind
  intro reconciledAt
  apply (h.work.reconcilePrevious _ _ _).bind
  intro suppressed
  apply (h.work.inferRelations _ _ _ _).bind
  intro _
  apply h.work.checkpoint.bind
  intro _
  apply h.work.clockNow.bind
  intro completedAt
  apply (h.onRun (.complete version.catalogVersionId completedAt) (by simp)).bind
  intro _
  apply h.work.saveRun.bind
  intro _
  exact preserves_pure

end HarvestInvariant

end Connector

end Zentra
