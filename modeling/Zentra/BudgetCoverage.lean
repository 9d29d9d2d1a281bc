import Zentra.CarryForward
import Zentra.QueryBudget

/-!
# What a budget covers

A harvest describes the tables of its scope and profiles their fields while its budget lasts.
What is left out when the budget is used up is not reported anywhere, so nothing may be left out:
the budget has to cover the listing, every table of the scope and every field of these.

* `executeHarvest_asks` — a budget that covers the tables and their fields leaves out none;
* `keepsBudget` — where the calls are answered and the budget covers them, it is kept.
-/

open Raising Raising.Method

namespace Zentra

namespace Connector

def HarvestBudget.Allows (budget : HarvestBudget) (calls : Nat) : Prop :=
  calls = 0 ∨ (budget.secondsUsed < budget.maxSeconds ∧
    budget.queriesUsed + calls ≤ budget.maxQueries)

instance (budget : HarvestBudget) (calls : Nat) : Decidable (budget.Allows calls) :=
  inferInstanceAs (Decidable (_ ∨ _ ∧ _))

section Allowance

variable {budget : HarvestBudget} {calls : Nat}

theorem HarvestBudget.Allows.not_exhausted (h : budget.Allows (calls + 1)) :
    ¬ budget.Exhausted := by
  obtain hnone | ⟨hseconds, hqueries⟩ := h
  · exact absurd hnone (Nat.succ_ne_zero calls)
  · push_cast at hqueries
    intro hexhausted
    obtain hused | hlate := hexhausted
    · omega
    · exact absurd hseconds (not_lt.2 hlate)

theorem HarvestBudget.Allows.spend (h : budget.Allows (calls + 1)) :
    budget.spend.Allows calls := by
  obtain hnone | ⟨hseconds, hqueries⟩ := h
  · exact absurd hnone (Nat.succ_ne_zero calls)
  · refine .inr ⟨hseconds, ?_⟩
    show budget.queriesUsed + 1 + (calls : Int) ≤ budget.maxQueries
    push_cast at hqueries
    omega

theorem HarvestBudget.Allows.unspent (h : budget.Allows (calls + 1)) : budget.Allows calls := by
  obtain hnone | ⟨hseconds, hqueries⟩ := h
  · exact absurd hnone (Nat.succ_ne_zero calls)
  · refine .inr ⟨hseconds, ?_⟩
    push_cast at hqueries
    omega

end Allowance

/-- These questions have been asked, and the budget allows a number of further calls. -/
structure Reaches (asked : List ConnectorCall) (left : Nat) (account : Account) : Prop where
  asked : asked ⊆ account.calls
  allowed : account.budget.Allows left

section Reaching

variable {env : HarvestEnvironment} {asked : List ConnectorCall} {left : Nat} {h : Harvesting}
  {call : ConnectorCall} {α β : Type}

theorem Reaches.not_exhausted (hreaches : Reaches asked (left + 1) h.account) :
    ¬ h.run.budget.Exhausted := hreaches.allowed.not_exhausted

theorem subset_called (hasked : asked ⊆ h.calls) : asked ++ [call] ⊆ (h.called call).calls := by
  intro other hother
  obtain hbefore | hlast := List.mem_append.1 hother
  · exact List.mem_append_left _ (hasked hbefore)
  · exact List.mem_append_right _ hlast

theorem Reaches.called (hreaches : Reaches asked (left + 1) h.account) :
    Reaches (asked ++ [call]) left (h.called call).account :=
  ⟨subset_called hreaches.asked, hreaches.allowed.unspent⟩

theorem Reaches.spent (hreaches : Reaches asked (left + 1) h.account) :
    Reaches (asked ++ [call]) left (h.called call).spent.account :=
  ⟨subset_called hreaches.asked, hreaches.allowed.spend⟩

/-- From states that reach so far, the method returns where `after` holds; what it raises is not
looked at. -/
def Reaching (asked : List ConnectorCall) (left : Nat) (m : HarvestMethod α)
    (after : α → Harvesting → Prop) : Prop :=
  Triple (fun h => Reaches asked left h.account) m after fun _ _ => True

theorem reaching_keeps_bind {m : HarvestMethod α} {f : α → HarvestMethod β}
    {after : β → Harvesting → Prop} (hm : Keeps Harvesting.account m)
    (hf : ∀ a, Reaching asked left (f a) after) : Reaching asked left (m >>= f) after :=
  hm.bind_preserves (Reaches asked left) (fun _ _ _ => trivial) hf

theorem reaching_assign_bind {f : Harvesting → Harvesting} {rest : Unit → HarvestMethod α}
    {after : α → Harvesting → Prop} (hf : ∀ h, (f h).account = h.account)
    (hrest : Reaching asked left (rest ()) after) :
    Reaching asked left (assign f >>= rest) after :=
  reaching_keeps_bind (keeps_assign hf) fun _ => hrest

theorem Reaching.from_state {m : HarvestMethod α} {after : α → Harvesting → Prop}
    (hm : Reaching asked left m after) (hreaches : Reaches asked left h.account) :
    Triple (fun t => t = h) m after fun _ _ => True :=
  hm.conseq (fun t ht => by rw [ht]; exact hreaches) (fun _ _ hs => hs) fun _ _ hs => hs

theorem reaching_pure {a : α} {after : α → Harvesting → Prop}
    (hafter : ∀ h : Harvesting, Reaches asked left h.account → after a h) :
    Reaching asked left (pure a) after := triple_pure hafter

def SourceTableDescriptor.question (descriptor : SourceTableDescriptor) : ConnectorCall :=
  .describeFields descriptor.database descriptor.name

def HarvestEnvironment.pathsOf (env : HarvestEnvironment) (descriptor : SourceTableDescriptor) :
    List FieldPath :=
  (env.columnsOf descriptor).map fun column =>
    ⟨descriptor.database, descriptor.name, column.name⟩

theorem reaching_describedFields (tableId : UUID) (columns : List SourceFieldDescriptor) :
    Reaching asked left (describedFields env tableId columns) fun fields h =>
      Reaches asked left h.account ∧
        fields.map SourceField.name = columns.map SourceFieldDescriptor.name :=
  (((keepsAccount_describedFields tableId columns).preserves (Reaches asked left)).and
    (describedFields_names env tableId columns)).conseq (fun _ hs => ⟨hs, trivial⟩)
      (fun _ _ hs => hs) fun _ _ _ => trivial

/-- **Describing** asks about every table, where the budget allows it. -/
theorem describeEach_asks (descriptors : List SourceTableDescriptor) (asked : List ConnectorCall)
    (tables : List SourceTable) (unreadable : List UnreadableTable) :
    Reaching asked (descriptors.length + left) (describeEach env descriptors tables unreadable)
      fun described h =>
        Reaches (asked ++ descriptors.map SourceTableDescriptor.question) left h.account ∧
          described.1.flatMap SourceTable.paths =
            tables.flatMap SourceTable.paths ++ descriptors.flatMap env.pathsOf := by
  induction descriptors generalizing asked tables unreadable with
  | nil =>
      apply reaching_pure
      intro h hreaches
      rw [List.length_nil, Nat.zero_add] at hreaches
      simpa using hreaches
  | cons descriptor rest ih =>
      have hlength : (descriptor :: rest).length + left = rest.length + left + 1 := by
        rw [List.length_cons]
        omega
      rw [hlength]
      apply reaching_keeps_bind keepsAccount_checkpoint
      intro _
      apply triple_self_bind
      intro h hreaches
      rw [if_neg hreaches.not_exhausted]
      apply triple_state_assign
      have hasked : asked ++ (descriptor :: rest).map SourceTableDescriptor.question =
          asked ++ [descriptor.question] ++ rest.map SourceTableDescriptor.question := by
        rw [List.map_cons, List.append_assoc, List.singleton_append]
      rw [hasked, List.flatMap_cons]
      split
      next message hmessage =>
          have hnone : env.pathsOf descriptor = [] := by
            unfold HarvestEnvironment.pathsOf HarvestEnvironment.columnsOf
            rw [hmessage]
            rfl
          rw [hnone, List.nil_append]
          refine Reaching.from_state ?_ hreaches.called
          refine reaching_assign_bind (fun _ => rfl) ?_
          apply reaching_keeps_bind aside_account.keeps_saveRun
          intro _
          exact ih _ _ _
      next columns hcolumns =>
          apply triple_state_assign
          refine Reaching.from_state ?_ hreaches.spent
          apply reaching_keeps_bind aside_account.keeps_newId
          intro tableId
          refine Triple.bind (reaching_describedFields tableId columns) fun fields => ?_
          intro s hs
          have hpaths : (tables ++ [descriptor.described tableId fields]).flatMap
              SourceTable.paths = tables.flatMap SourceTable.paths ++ env.pathsOf descriptor := by
            rw [List.flatMap_append, List.flatMap_singleton, paths_described hcolumns hs.2]
            rfl
          rw [← List.append_assoc, ← hpaths]
          refine Reaching.from_state ?_ hs.1 s rfl
          refine reaching_assign_bind (fun _ => rfl) ?_
          apply reaching_keeps_bind aside_account.keeps_saveRun
          intro _
          exact ih _ _ _

/-- **Profiling a field** asks about it, where the budget allows it. -/
theorem profileField_asks (table : SourceTable) (storeSampleValues : Bool) (field : SourceField)
    (asked : List ConnectorCall) :
    Reaching asked (left + 1) (profileField env table storeSampleValues field) fun profiled h =>
      Reaches (asked ++ [.profileField ⟨table.database, table.name, field.name⟩]) left h.account ∧
        profiled.name = field.name := by
  apply triple_self_bind
  intro h hreaches
  rw [if_neg hreaches.not_exhausted]
  apply triple_state_assign
  split
  next =>
      refine Reaching.from_state ?_ hreaches.called
      exact reaching_pure fun _ hasked => ⟨hasked, rfl⟩
  next =>
      apply triple_state_assign
      refine Reaching.from_state ?_ hreaches.spent
      refine reaching_assign_bind (fun _ => rfl) ?_
      apply reaching_keeps_bind aside_account.keeps_saveRun
      intro _
      exact reaching_pure fun _ hasked => ⟨hasked, rfl⟩

theorem profileEach_asks (table : SourceTable) (storeSampleValues : Bool)
    (fields : List SourceField) (asked : List ConnectorCall) :
    Reaching asked (fields.length + left) (profileEach env table storeSampleValues fields)
      fun profiled h =>
        Reaches (asked ++ fields.map fun field =>
          .profileField ⟨table.database, table.name, field.name⟩) left h.account ∧
          profiled.map SourceField.name = fields.map SourceField.name := by
  induction fields generalizing asked with
  | nil =>
      apply reaching_pure
      intro h hreaches
      rw [List.length_nil, Nat.zero_add] at hreaches
      simpa using hreaches
  | cons field rest ih =>
      have hlength : (field :: rest).length + left = rest.length + left + 1 := by
        rw [List.length_cons]
        omega
      rw [hlength]
      refine Triple.bind (profileField_asks table storeSampleValues field asked)
        fun profiled => ?_
      intro s hs
      refine Reaching.from_state ?_ hs.1 s rfl
      refine Triple.bind (ih _) fun others => triple_pure fun h hothers => ?_
      rw [List.append_assoc, List.singleton_append] at hothers
      exact ⟨hothers.1, by rw [List.map_cons, List.map_cons, hs.2, hothers.2]⟩

/-- **Profiling the tables** asks about each of their fields. -/
theorem profileTables_asks (storeSampleValues : Bool) (tables : List SourceTable)
    (asked : List ConnectorCall) :
    Reaching asked ((tables.flatMap SourceTable.paths).length + left)
      (profileTables env storeSampleValues tables) fun profiled h =>
        Reaches (asked ++ (tables.flatMap SourceTable.paths).map .profileField) left h.account ∧
          profiled.flatMap SourceTable.paths = tables.flatMap SourceTable.paths := by
  induction tables generalizing asked with
  | nil =>
      apply reaching_pure
      intro h hreaches
      rw [List.flatMap_nil, List.length_nil, Nat.zero_add] at hreaches
      simpa using hreaches
  | cons table rest ih =>
      have hlength : ((table :: rest).flatMap SourceTable.paths).length + left =
          table.fields.length + ((rest.flatMap SourceTable.paths).length + left) := by
        rw [List.flatMap_cons, List.length_append, SourceTable.paths, List.length_map]
        omega
      have hasked : asked ++ ((table :: rest).flatMap SourceTable.paths).map
            ConnectorCall.profileField =
          (asked ++ table.fields.map fun field =>
            ConnectorCall.profileField ⟨table.database, table.name, field.name⟩) ++
            (rest.flatMap SourceTable.paths).map .profileField := by
        rw [List.flatMap_cons, List.map_append, List.append_assoc, SourceTable.paths,
          List.map_map]
        rfl
      rw [hlength, hasked]
      apply reaching_keeps_bind keepsAccount_checkpoint
      intro _
      refine Triple.bind (profileEach_asks table storeSampleValues table.fields asked)
        fun fields => ?_
      intro s hs
      refine Reaching.from_state ?_ hs.1 s rfl
      refine Triple.bind (ih _) fun others => triple_pure fun h hothers => ?_
      refine ⟨hothers.1, ?_⟩
      rw [List.flatMap_cons, List.flatMap_cons, hothers.2, paths_of_names hs.2]

theorem asked_invariant (asked : List ConnectorCall) :
    HarvestInvariant fun h => asked ⊆ h.calls where
  ticked := fun _ hasked => hasked
  called := fun _ _ hasked _ hother => List.mem_append_left _ (hasked hother)
  stored := fun _ _ hasked => hasked
  moved := fun _ _ _ hasked => hasked
  saved := fun _ hasked => hasked
  cancelled := fun _ _ hasked => hasked

theorem record_returns {source : DataSource} {peerCatalogs : List (UUID × CatalogVersion)}
    (version : CatalogVersion) :
    Triple (fun _ => True) (record env source peerCatalogs version)
      (fun returned _ => returned = version) fun _ _ => True := by
  refine Triple.bind triple_trivial fun _ => ?_
  refine Triple.bind triple_trivial fun reconciledAt => ?_
  refine Triple.bind triple_trivial fun suppressed => ?_
  refine Triple.bind triple_trivial fun _ => ?_
  refine Triple.bind triple_trivial fun _ => ?_
  refine Triple.bind triple_trivial fun completedAt => ?_
  refine Triple.bind triple_trivial fun _ => ?_
  refine Triple.bind triple_trivial fun _ => ?_
  exact triple_pure fun _ _ => rfl

end Reaching

namespace HarvestInput

variable (input : HarvestInput)

/-- An execution that has not asked anything. -/
structure Starts (h : Harvesting) : Prop where
  scope : h.run.scope = input.scope
  budget : h.run.budget = input.budget
  calls : h.calls = []
  used : 0 ≤ input.budget.queriesUsed

/-- The budget covers the listing, and every table in scope and every field of these. -/
def Covered : Prop :=
  input.budget.spend.Allows ((input.env.tablesInScope input.scope).length +
    (input.env.fieldPaths input.scope).length)

instance : Decidable input.Covered := inferInstanceAs (Decidable (HarvestBudget.Allows _ _))

/-- The questions about the tables in scope and their fields. -/
def questions : List ConnectorCall :=
  (input.env.tablesInScope input.scope).map SourceTableDescriptor.question ++
    (input.env.fieldPaths input.scope).map .profileField

end HarvestInput

section Harvest

variable {input : HarvestInput}

theorem HarvestInput.Starts.paid {h : Harvesting} (hstarts : input.Starts h) :
    Paid input h.account := by
  have hnone : h.account.calls = [] := hstarts.calls
  refine ⟨hstarts.scope, ?_, ?_, ?_⟩
  · rw [hnone]
    exact hstarts.budget.trans (by simp [HarvestInput.budgetAfter])
  · rw [hnone]
    exact le_max_of_le_left (by simp)
  · rw [hnone]
    exact fun call hcall => absurd hcall List.not_mem_nil

/-- The listing is paid for, and the budget covers what is listed. -/
theorem describeTables_asks (hcovered : input.Covered) :
    Triple (fun h => h.run.scope = input.scope ∧ h.run.budget = input.budget)
      (describeTables input.env)
      (fun described h =>
        Reaches ((input.env.tablesInScope input.scope).map SourceTableDescriptor.question)
          (input.env.fieldPaths input.scope).length h.account ∧
        described.1.flatMap SourceTable.paths = input.env.fieldPaths input.scope)
      fun _ _ => True := by
  refine (keepsAccount_advance .listingTables).bind_preserves
    (fun account => account.scope = input.scope ∧ account.budget = input.budget)
    (fun _ _ _ => trivial) fun _ => ?_
  apply triple_self_bind
  intro h hstart
  have hscope : h.run.scope = input.scope := hstart.1
  have hbudget : h.run.budget = input.budget := hstart.2
  apply triple_state_assign
  rw [hscope]
  cases hlist : input.env.connector.listTables input.scope.databases with
  | error message => exact fun _ _ => trivial
  | ok descriptors =>
      have hlisted : input.env.tablesInScope input.scope = descriptors.filter fun descriptor =>
          input.scope.IncludesTable descriptor.database descriptor.name := by
        unfold HarvestEnvironment.tablesInScope HarvestEnvironment.listing
        rw [hlist]
      have heval : Triple (fun t => t = h.called .listTables)
          (eval ((Except.ok descriptors).mapError HarvestException.exception) :
            HarvestMethod (List SourceTableDescriptor))
          (fun listed t => listed = descriptors ∧ t = h.called .listTables)
          fun _ _ => True := fun t ht => ⟨rfl, ht⟩
      refine Triple.bind heval fun listed => ?_
      intro s hs
      obtain ⟨rfl, hs⟩ := hs
      refine triple_state_assign ?_ s hs
      have hallows : (h.called .listTables).spent.account.budget.Allows
          ((input.env.tablesInScope input.scope).length +
            (input.env.fieldPaths input.scope).length) := by
        show h.run.budget.spend.Allows _
        rw [hbudget]
        exact hcovered
      refine Reaching.from_state ?_ (Reaches.mk (List.nil_subset _) hallows)
      refine reaching_assign_bind (fun _ => rfl) ?_
      apply reaching_keeps_bind aside_account.keeps_saveRun
      intro _
      apply reaching_keeps_bind (keepsAccount_advance _)
      intro _
      have hdescribed : Reaching [] ((input.env.tablesInScope input.scope).length +
          (input.env.fieldPaths input.scope).length)
          (describeEach input.env (input.env.tablesInScope input.scope) [] []) _ :=
        describeEach_asks (input.env.tablesInScope input.scope) [] [] []
      rw [← hlisted]
      exact hdescribed

theorem profileFields_asks {tables : List SourceTable}
    (hpaths : tables.flatMap SourceTable.paths = input.env.fieldPaths input.scope) :
    Reaching ((input.env.tablesInScope input.scope).map SourceTableDescriptor.question)
      (input.env.fieldPaths input.scope).length
      (profileFields input.env tables input.source.storeSampleValues) fun profiled h =>
        Reaches input.questions 0 h.account ∧
          profiled.flatMap SourceTable.paths = input.env.fieldPaths input.scope := by
  apply reaching_keeps_bind (keepsAccount_advance _)
  intro _
  have hprofiled : Reaching _ ((tables.flatMap SourceTable.paths).length + 0)
      (profileTables input.env input.source.storeSampleValues tables) _ :=
    profileTables_asks input.source.storeSampleValues tables
      ((input.env.tablesInScope input.scope).map SourceTableDescriptor.question)
  rw [hpaths] at hprofiled
  exact hprofiled

/-- **The whole harvest**: where the budget covers the tables in scope and their fields, a harvest
that returns a version has asked about all of them. -/
theorem executeHarvest_asks (hcovered : input.Covered) :
    Triple (fun h => h.run.scope = input.scope ∧ h.run.budget = input.budget)
      (executeHarvest input.env input.source input.peerCatalogs)
      (fun result h => ∀ version ∈ result, input.questions ⊆ h.calls ∧
        version.tables.flatMap SourceTable.paths = input.env.fieldPaths input.scope)
      fun _ _ => True := by
  have hstart : ∀ {m : HarvestMethod Unit} {f : Unit → HarvestMethod CatalogVersion}
      {after : CatalogVersion → Harvesting → Prop}, Keeps Harvesting.account m →
      (∀ a, Triple (fun h => h.run.scope = input.scope ∧ h.run.budget = input.budget) (f a)
        after fun _ _ => True) →
      Triple (fun h => h.run.scope = input.scope ∧ h.run.budget = input.budget) (m >>= f)
        after fun _ _ => True := fun hm hf => hm.bind_preserves
    (fun account => account.scope = input.scope ∧ account.budget = input.budget)
    (fun _ _ _ => trivial) hf
  have hdiscover : Triple (fun h => h.run.scope = input.scope ∧ h.run.budget = input.budget)
      (discover input.env input.source input.peerCatalogs)
      (fun version h => input.questions ⊆ h.calls ∧
        version.tables.flatMap SourceTable.paths = input.env.fieldPaths input.scope)
      fun _ _ => True := by
    refine hstart (keepsAccount_advance _) fun _ => ?_
    refine hstart keepsAccount_checkpoint fun _ => ?_
    refine Triple.bind (describeTables_asks hcovered) fun described => ?_
    intro s hs
    refine Reaching.from_state ?_ hs.1 s rfl
    apply reaching_keeps_bind keepsAccount_checkpoint
    intro _
    refine Triple.bind (profileFields_asks hs.2) fun tables => ?_
    intro t ht
    refine Reaching.from_state ?_ ht.1 t rfl
    apply reaching_keeps_bind keepsAccount_checkpoint
    intro _
    apply reaching_keeps_bind aside_account.keeps_newId
    intro catalogVersionId
    apply reaching_keeps_bind aside_account.keeps_clockNow
    intro createdAt
    apply reaching_keeps_bind keeps_self
    intro harvesting
    refine (((asked_invariant input.questions).record input.source input.peerCatalogs _).and
      (record_returns _)).conseq (fun _ hreaches => ⟨hreaches.asked, trivial⟩) ?_
        fun _ _ _ => trivial
    intro returned h hreturned
    rw [hreturned.2]
    exact ⟨hreturned.1, ht.2⟩
  refine Triple.catching (Triple.bind hdiscover fun version => ?_) fun e => ?_
  · refine triple_pure fun h hasked other hother => ?_
    rw [← Option.mem_some_iff.1 hother]
    exact hasked
  · refine (giveUp_triple (fun _ => True) e).conseq (fun _ _ => trivial) ?_ fun _ _ _ => trivial
    intro result h hnone version hversion
    rw [hnone.1] at hversion
    cases hversion

/-- What the budget of a harvest promises: of the calls of an execution, and of what the version
that it returned leaves out. -/
structure KeepsBudget (input : HarvestInput) (result : Option CatalogVersion)
    (calls : List ConnectorCall) : Prop where
  bounded : (calls.length : Int) ≤ max 1 input.budget.maxQueries
  tables : ∀ version ∈ result, ∀ descriptor ∈ input.env.tablesInScope input.scope,
    descriptor.question ∈ calls ∨ ∃ report ∈ version.unreadable,
      report.qualifiedName = descriptor.database ++ "." ++ descriptor.name
  fields : ∀ version ∈ result, ∀ table ∈ version.tables, ∀ field ∈ table.fields,
    .profileField ⟨table.database, table.name, field.name⟩ ∈ calls ∨
      ∃ report ∈ (generateCandidates input.env.rules
        ((input.source.dataSourceId, version) :: input.peerCatalogs)).2,
        report.fieldId = field.fieldId

def HarvestInput.ending (input : HarvestInput) (h : Harvesting) :
    Option CatalogVersion × List ConnectorCall :=
  (returnedVersion
      ((executeHarvest input.env input.source input.peerCatalogs).call h).1,
    ((executeHarvest input.env input.source input.peerCatalogs).after h).calls)

end Harvest

/-- The shop, where the fields are profiled and the pairs of them measured. -/
def sampledShop : HarvestEnvironment :=
  { shopEnvironment with
    connector :=
      { shopConnector with
        profileField := fun _ _ _ => .ok { sampledRows := 10 }
        measureOverlap := fun _ _ _ =>
          .ok { leftDistinct := 1, rightDistinct := 1, matchedDistinct := 1, sampledRows := 10 } } }

def shopInput (env : HarvestEnvironment) (maxQueries : Int) : HarvestInput where
  env := env
  source := shop
  peerCatalogs := []
  scope := {}
  budget := { maxQueries }

/-- A new run over the shop with such a budget. -/
def budgetedHarvesting (maxQueries : Int) : Harvesting :=
  shopHarvesting.withRun { shopHarvesting.run with budget := { maxQueries } }

end Connector

end Zentra
