import Zentra.CandidateCoverage
import Zentra.HarvestSteps
import Zentra.StaleEvidence

/-!
# What a harvest asks of a source

A harvest lists the tables of a source, describes those in its scope, profiles their fields and
compares the values of two fields.  It stops when its budget is used up.  A call is paid for
after the source has answered it, so a call that fails is not counted.

* `Paid` — the budget counts the calls that were answered;
* `executeHarvest_paid` — whatever the source answers, what it answers is within the budget.
-/

open Raising Raising.Method

namespace Zentra

namespace Connector

def HarvestEnvironment.tablesInScope (env : HarvestEnvironment) (scope : HarvestScope) :
    List SourceTableDescriptor :=
  (env.listing scope).filter fun descriptor =>
    scope.IncludesTable descriptor.database descriptor.name

/-- The columns of a table, as the source describes them. -/
def HarvestEnvironment.columnsOf (env : HarvestEnvironment) (descriptor : SourceTableDescriptor) :
    List SourceFieldDescriptor :=
  match env.connector.describeFields descriptor.database descriptor.name with
  | .ok columns => columns
  | .error _ => []

/-- The fields of the tables in scope. -/
def HarvestEnvironment.fieldPaths (env : HarvestEnvironment) (scope : HarvestScope) :
    List FieldPath :=
  (env.tablesInScope scope).flatMap fun descriptor =>
    (env.columnsOf descriptor).map fun column =>
      ⟨descriptor.database, descriptor.name, column.name⟩

/-- The fields of a harvested table. -/
def SourceTable.paths (table : SourceTable) : List FieldPath :=
  table.fields.map fun field => ⟨table.database, table.name, field.name⟩

/-- A harvest, before it is executed: what surrounds it, and the scope and budget of its run. -/
structure HarvestInput where
  env : HarvestEnvironment
  source : DataSource
  peerCatalogs : List (UUID × CatalogVersion)
  scope : HarvestScope
  budget : HarvestBudget

namespace HarvestInput

variable (input : HarvestInput)

/-- The fields whose values can be compared: those of the source, and those of its peers. -/
def places : List (UUID × FieldPath) :=
  (input.env.fieldPaths input.scope).map (fun path => (input.source.dataSourceId, path)) ++
    input.peerCatalogs.flatMap fun peer =>
      peer.2.tables.flatMap fun table => table.paths.map fun path => (peer.1, path)

def Asks : ConnectorCall → Prop
  | .listTables => True
  | .describeFields database table => ∃ descriptor ∈ input.env.tablesInScope input.scope,
      descriptor.database = database ∧ descriptor.name = table
  | .profileField path => path ∈ input.env.fieldPaths input.scope
  | .measureOverlap left right => left ∈ input.places ∧ right ∈ input.places

/-- Whether the source answers a question. -/
def answers : ConnectorCall → Bool
  | .listTables => (input.env.connector.listTables input.scope.databases).isOk
  | .describeFields database table => (input.env.connector.describeFields database table).isOk
  | .profileField path => (input.env.connector.profileField path input.budget.sampleRows
      input.source.storeSampleValues).isOk
  | .measureOverlap left right =>
      (input.env.connector.measureOverlap left right input.budget.sampleRows).isOk

def budgetAfter (answered : Nat) : HarvestBudget :=
  { input.budget with queriesUsed := input.budget.queriesUsed + answered }

end HarvestInput

/-- What of an execution the budget is about. -/
structure Account where
  scope : HarvestScope
  budget : HarvestBudget
  calls : List ConnectorCall

def Harvesting.account (h : Harvesting) : Account := ⟨h.run.scope, h.run.budget, h.calls⟩

/-- **The account**: every call is a question of the harvest, and the budget counts the calls
that were answered, and no more of them than it allows. -/
structure Paid (input : HarvestInput) (account : Account) : Prop where
  scope : account.scope = input.scope
  budget : account.budget = input.budgetAfter (account.calls.countP input.answers)
  within : (account.calls.countP input.answers : Int) ≤ max 1 input.budget.maxQueries
  asked : ∀ call ∈ account.calls, input.Asks call

theorem Paid.sampleRows {input : HarvestInput} {h : Harvesting} (hpaid : Paid input h.account) :
    h.run.budget.sampleRows = input.budget.sampleRows := by
  have hbudget : h.run.budget = input.budgetAfter (h.calls.countP input.answers) := hpaid.budget
  rw [hbudget]
  rfl

section Frames

variable {env : HarvestEnvironment}

theorem aside_account : Aside Harvesting.account := ⟨fun _ => rfl, fun _ => rfl⟩

/-- A method of the run that leaves its scope and its budget. -/
theorem keepsAccount_onRun {method : Method HarvestRun HarvestTransitionError Unit}
    (h : Keeps (fun run : HarvestRun => (run.scope, run.budget)) method) :
    Keeps Harvesting.account (onRun method) := by
  intro harvesting
  have hview : ((method.after harvesting.run).scope, (method.after harvesting.run).budget) =
      (harvesting.run.scope, harvesting.run.budget) := h harvesting.run
  have hafter : (onRun method).after harvesting =
      harvesting.withRun (method.after harvesting.run) := by
    rcases hcalled : method harvesting.run with ⟨e | a, run⟩
    · simp [Method.after, call, onRun, zoom, hcalled]
    · simp [Method.after, call, onRun, zoom, hcalled]
  obtain ⟨hscope, hbudget⟩ := Prod.mk.inj hview
  rw [hafter]
  unfold Harvesting.account Harvesting.withRun
  rw [← hscope, ← hbudget]

theorem keepsAccount_call (call : HarvestRunCall) (hcall : ∀ progress, call ≠ .count progress) :
    Keeps Harvesting.account (onRun call.method) := by
  apply keepsAccount_onRun
  intro run
  rw [HarvestRunCall.after_eq]
  split
  · rfl
  · cases call with
    | count progress => exact absurd rfl (hcall progress)
    | _ => rfl

theorem keepsAccount_advance (phase : HarvestPhase) :
    Keeps Harvesting.account (advance env phase) := by
  apply aside_account.keeps_clockNow.bind
  intro now
  apply (keepsAccount_call (.advance phase now) (by simp)).bind
  intro _
  exact aside_account.keeps_saveRun

theorem keepsAccount_checkpoint : Keeps Harvesting.account (checkpoint env) := by
  apply aside_account.keeps_tick.bind
  intro moment
  refine keeps_assign_bind (fun _ => rfl) ?_
  apply aside_account.keeps_connect.bind
  intro _
  exact keeps_raiseIf

theorem keepsAccount_write (change : CatalogStore → Except String CatalogStore) :
    Keeps Harvesting.account (write env change) := by
  apply aside_account.keeps_connect.bind
  intro _
  apply keeps_self.bind
  intro harvesting
  cases change harvesting.store with
  | ok store => exact keeps_assign fun _ => rfl
  | error message => exact keeps_raise

theorem keepsAccount_describedFields (tableId : UUID) (columns : List SourceFieldDescriptor) :
    Keeps Harvesting.account (describedFields env tableId columns) := by
  induction columns with
  | nil => exact keeps_pure
  | cons column rest ih =>
      apply aside_account.keeps_newId.bind
      intro fieldId
      apply ih.bind
      intro fields
      exact keeps_pure

theorem keepsAccount_saveEach (relations : List Relation) :
    Keeps Harvesting.account (saveEach env relations) := by
  induction relations with
  | nil => exact keeps_pure
  | cons relation rest ih =>
      apply (keepsAccount_write _).bind
      intro _
      exact ih

theorem keepsAccount_reconcilePrevious (source : DataSource) (version : CatalogVersion)
    (now : Int) : Keeps Harvesting.account (reconcilePrevious env source version now) := by
  apply aside_account.keeps_connect.bind
  intro _
  apply keeps_self.bind
  intro harvesting
  extract_lets previous
  split
  · exact keeps_pure
  · apply keeps_eval.bind
    intro outcome
    apply (keepsAccount_saveEach _).bind
    intro _
    exact keeps_pure

theorem keepsAccount_addProposals (proposals : List Relation) :
    Keeps Harvesting.account (addProposals env proposals) := by
  unfold addProposals
  split
  · exact keeps_pure
  · exact keepsAccount_write _

theorem keepsAccount_giveUp (e : HarvestException) :
    Keeps Harvesting.account (giveUp env e) := by
  cases e with
  | cancelled =>
      apply aside_account.keeps_clockNow.bind
      intro now
      apply (keepsAccount_call (.cancel now) (by simp)).bind
      intro _
      apply aside_account.keeps_saveRun.bind
      intro _
      exact keeps_pure
  | exception message =>
      apply aside_account.keeps_clockNow.bind
      intro now
      apply (keepsAccount_call (.fail _ _ now) (by simp)).bind
      intro _
      apply aside_account.keeps_saveRun.bind
      intro _
      exact keeps_pure

end Frames

section Calls

variable {input : HarvestInput} {h : Harvesting} {call : ConnectorCall}

theorem Paid.called (hpaid : Paid input h.account) (hasks : input.Asks call)
    (hanswer : input.answers call = false) : Paid input (h.called call).account := by
  have hcount : (h.called call).calls.countP input.answers = h.calls.countP input.answers := by
    unfold Harvesting.called
    rw [List.countP_append, List.countP_singleton, if_neg (by simp [hanswer]), Nat.add_zero]
  refine ⟨hpaid.scope, ?_, ?_, ?_⟩
  · show h.run.budget = input.budgetAfter ((h.called call).calls.countP input.answers)
    rw [hcount]
    exact hpaid.budget
  · show ((h.called call).calls.countP input.answers : Int) ≤ _
    rw [hcount]
    exact hpaid.within
  · intro other hother
    obtain hbefore | hlast := List.mem_append.1 hother
    · exact hpaid.asked other hbefore
    · rw [List.mem_singleton.1 hlast]
      exact hasks

/-- **A call that is answered** is paid for: within the budget if it is the first one, or if the
budget was not used up. -/
theorem Paid.spent (hpaid : Paid input h.account) (hused : 0 ≤ input.budget.queriesUsed)
    (hasks : input.Asks call) (hanswer : input.answers call = true)
    (hleft : h.calls = [] ∨ ¬ h.run.budget.Exhausted) :
    Paid input (h.called call).spent.account := by
  have hcount : (h.called call).spent.calls.countP input.answers =
      h.calls.countP input.answers + 1 := by
    show (h.calls ++ [call]).countP input.answers = _
    rw [List.countP_append, List.countP_singleton, if_pos hanswer]
  have hbudget : h.run.budget = input.budgetAfter (h.calls.countP input.answers) := hpaid.budget
  refine ⟨hpaid.scope, ?_, ?_, ?_⟩
  · show h.run.budget.spend =
      input.budgetAfter ((h.called call).spent.calls.countP input.answers)
    rw [hcount, hbudget]
    unfold HarvestBudget.spend HarvestInput.budgetAfter
    push_cast
    rw [add_assoc]
  · show ((h.called call).spent.calls.countP input.answers : Int) ≤ _
    rw [hcount]
    obtain hfirst | hleft := hleft
    · rw [hfirst]
      exact le_max_left _ _
    · have hbelow : input.budget.queriesUsed + (h.calls.countP input.answers : Int) <
          input.budget.maxQueries := by
        by_contra hover
        rw [hbudget] at hleft
        exact hleft (.inl (not_lt.1 hover))
      push_cast
      omega
  · intro other hother
    obtain hbefore | hlast := List.mem_append.1 hother
    · exact hpaid.asked other hbefore
    · rw [List.mem_singleton.1 hlast]
      exact hasks

end Calls

section Outcomes

variable {input : HarvestInput} {α β : Type}

/-- The method keeps the account, and returns what is claimed of its result. -/
def Accounts (input : HarvestInput) (m : HarvestMethod α) (result : α → Prop) : Prop :=
  Triple (fun h => Paid input h.account) m (fun a h => Paid input h.account ∧ result a)
    fun _ h => Paid input h.account

theorem Accounts.bind {m : HarvestMethod α} {f : α → HarvestMethod β} {middle : α → Prop}
    {result : β → Prop} (hm : Accounts input m middle)
    (hf : ∀ a, middle a → Accounts input (f a) result) : Accounts input (m >>= f) result := by
  refine Triple.bind hm fun a => ?_
  intro s hs
  exact hf a hs.2 s hs.1

theorem accounts_of_keeps {m : HarvestMethod α} (h : Keeps Harvesting.account m) :
    Accounts input m fun _ => True :=
  (h.preserves (Paid input)).conseq (fun _ hs => hs) (fun _ _ hs => ⟨hs, trivial⟩)
    fun _ _ hs => hs

theorem accounts_pure {a : α} {result : α → Prop} (h : result a) :
    Accounts input (pure a) result := triple_pure fun _ hs => ⟨hs, h⟩

theorem accounts_assign_bind {f : Harvesting → Harvesting} {rest : Unit → HarvestMethod α}
    {result : α → Prop} (hf : ∀ h, (f h).account = h.account)
    (hrest : Accounts input (rest ()) result) : Accounts input (assign f >>= rest) result :=
  (accounts_of_keeps (keeps_assign hf)).bind fun _ _ => hrest

/-- Reading the execution, and going on with what was read. -/
theorem accounts_self_bind {f : Harvesting → HarvestMethod α} {result : α → Prop}
    (hf : ∀ h, Paid input h.account → Triple (fun t => t = h) (f h)
      (fun a t => Paid input t.account ∧ result a) fun _ t => Paid input t.account) :
    Accounts input (self >>= f) result := triple_self_bind hf

theorem Accounts.from_state {m : HarvestMethod α} {result : α → Prop} (hm : Accounts input m result)
    {h : Harvesting} (hpaid : Paid input h.account) : Triple (fun t => t = h) m
      (fun a t => Paid input t.account ∧ result a) fun _ t => Paid input t.account :=
  hm.conseq (fun t ht => by rw [ht]; exact hpaid) (fun _ _ hs => hs) fun _ _ hs => hs

theorem triple_state_assign {f : Harvesting → Harvesting} {rest : Unit → HarvestMethod α}
    {h : Harvesting} {after : α → Harvesting → Prop} {raised : HarvestException → Harvesting → Prop}
    (hrest : Triple (fun t => t = f h) (rest ()) after raised) :
    Triple (fun t => t = h) (assign f >>= rest) after raised :=
  Triple.bind (triple_assign fun t ht => by rw [ht]) fun _ => hrest

theorem describedFields_names (env : HarvestEnvironment) (tableId : UUID)
    (columns : List SourceFieldDescriptor) :
    Triple (fun _ => True) (describedFields env tableId columns)
      (fun fields _ => fields.map SourceField.name = columns.map SourceFieldDescriptor.name)
      fun _ _ => True := by
  induction columns with
  | nil => exact triple_pure fun _ _ => rfl
  | cons column rest ih =>
      refine Triple.bind triple_trivial fun fieldId => ?_
      refine Triple.bind ih fun fields => triple_pure fun _ hnames => ?_
      rw [List.map_cons, List.map_cons, hnames]
      rfl

theorem accounts_describedFields (tableId : UUID) (columns : List SourceFieldDescriptor) :
    Accounts input (describedFields input.env tableId columns) fun fields =>
      fields.map SourceField.name = columns.map SourceFieldDescriptor.name :=
  (((keepsAccount_describedFields tableId columns).preserves (Paid input)).and
    (describedFields_names input.env tableId columns)).conseq (fun _ hs => ⟨hs, trivial⟩)
      (fun _ _ hs => hs) fun _ _ hs => hs.1

theorem paths_described {env : HarvestEnvironment} {descriptor : SourceTableDescriptor}
    {tableId : UUID} {fields : List SourceField} {columns : List SourceFieldDescriptor}
    (hcolumns : env.connector.describeFields descriptor.database descriptor.name = .ok columns)
    (hnames : fields.map SourceField.name = columns.map SourceFieldDescriptor.name) :
    (descriptor.described tableId fields).paths =
      (env.columnsOf descriptor).map fun column =>
        ⟨descriptor.database, descriptor.name, column.name⟩ := by
  have hof : env.columnsOf descriptor = columns := by
    unfold HarvestEnvironment.columnsOf
    rw [hcolumns]
  have hpaths := congrArg (List.map fun name =>
    FieldPath.mk descriptor.database descriptor.name name) hnames
  rw [List.map_map, List.map_map] at hpaths
  rw [hof]
  exact hpaths

theorem answers_describeFields {descriptor : SourceTableDescriptor} :
    input.answers (.describeFields descriptor.database descriptor.name) =
      (input.env.connector.describeFields descriptor.database descriptor.name).isOk := rfl

/-- **Describing** keeps the account, and describes fields that the source has. -/
theorem accounts_describeEach (hused : 0 ≤ input.budget.queriesUsed)
    {descriptors : List SourceTableDescriptor}
    (hscope : descriptors ⊆ input.env.tablesInScope input.scope) (tables : List SourceTable)
    (htables : ∀ table ∈ tables, table.paths ⊆ input.env.fieldPaths input.scope)
    (unreadable : List UnreadableTable) :
    Accounts input (describeEach input.env descriptors tables unreadable) fun described =>
      ∀ table ∈ described.1, table.paths ⊆ input.env.fieldPaths input.scope := by
  induction descriptors generalizing tables unreadable with
  | nil => exact accounts_pure htables
  | cons descriptor rest ih =>
      have hmem := hscope List.mem_cons_self
      have hrest : rest ⊆ input.env.tablesInScope input.scope :=
        fun other hother => hscope (List.mem_cons_of_mem descriptor hother)
      have hasks : input.Asks (.describeFields descriptor.database descriptor.name) :=
        ⟨descriptor, hmem, rfl, rfl⟩
      refine (accounts_of_keeps keepsAccount_checkpoint).bind fun _ _ => ?_
      apply accounts_self_bind
      intro h hpaid
      split
      next => exact (accounts_pure htables).from_state hpaid
      next hleft =>
          apply triple_state_assign
          split
          next message hmessage =>
              have hanswer : input.answers
                  (.describeFields descriptor.database descriptor.name) = false := by
                rw [answers_describeFields, hmessage]
                rfl
              refine Accounts.from_state ?_ (hpaid.called hasks hanswer)
              refine accounts_assign_bind (fun _ => rfl) ?_
              refine (accounts_of_keeps aside_account.keeps_saveRun).bind fun _ _ => ?_
              exact ih hrest tables htables _
          next columns hcolumns =>
              have hanswer : input.answers
                  (.describeFields descriptor.database descriptor.name) = true := by
                rw [answers_describeFields, hcolumns]
                rfl
              apply triple_state_assign
              refine Accounts.from_state ?_ (hpaid.spent hused hasks hanswer (.inr hleft))
              refine (accounts_of_keeps aside_account.keeps_newId).bind fun tableId _ => ?_
              refine (accounts_describedFields tableId columns).bind fun fields hnames => ?_
              refine accounts_assign_bind (fun _ => rfl) ?_
              refine (accounts_of_keeps aside_account.keeps_saveRun).bind fun _ _ => ?_
              refine ih hrest _ ?_ _
              intro table htable
              obtain htable | htable := List.mem_append.1 htable
              · exact htables table htable
              · rw [List.mem_singleton.1 htable, paths_described hcolumns hnames]
                exact fun path hpath => List.mem_flatMap.2 ⟨descriptor, hmem, hpath⟩

theorem describeTables_paid (hused : 0 ≤ input.budget.queriesUsed) :
    Triple (fun h => Paid input h.account ∧ h.calls = []) (describeTables input.env)
      (fun described h => Paid input h.account ∧
        ∀ table ∈ described.1, table.paths ⊆ input.env.fieldPaths input.scope)
      fun _ h => Paid input h.account := by
  have hadvance : Triple (fun h => Paid input h.account ∧ h.calls = [])
      (advance input.env .listingTables) (fun _ h => Paid input h.account ∧ h.calls = [])
      fun _ h => Paid input h.account :=
    ((keepsAccount_advance .listingTables).preserves fun account =>
      Paid input account ∧ account.calls = []).conseq (fun _ hs => hs) (fun _ _ hs => hs)
        fun _ _ hs => hs.1
  refine Triple.bind hadvance fun _ => ?_
  apply triple_self_bind
  intro h hstart
  obtain ⟨hpaid, hfirst⟩ := hstart
  have hscope : h.run.scope = input.scope := hpaid.scope
  have hasks : input.Asks .listTables := trivial
  apply triple_state_assign
  rw [hscope]
  cases hlist : input.env.connector.listTables input.scope.databases with
  | error message =>
      have hanswer : input.answers .listTables = false := by
        unfold HarvestInput.answers
        rw [hlist]
        rfl
      have hcalled := hpaid.called hasks hanswer
      intro t ht
      rw [ht]
      exact hcalled
  | ok descriptors =>
      have hanswer : input.answers .listTables = true := by
        unfold HarvestInput.answers
        rw [hlist]
        rfl
      have hlisted : input.env.listing input.scope = descriptors := by
        unfold HarvestEnvironment.listing
        rw [hlist]
      have heval : Triple (fun t => t = h.called .listTables)
          (eval ((Except.ok descriptors).mapError HarvestException.exception) :
            HarvestMethod (List SourceTableDescriptor))
          (fun listed t => listed = descriptors ∧ t = h.called .listTables)
          fun _ t => Paid input t.account := fun t ht => ⟨rfl, ht⟩
      refine Triple.bind heval fun listed => ?_
      intro s hs
      obtain ⟨rfl, hs⟩ := hs
      refine triple_state_assign ?_ s hs
      refine Accounts.from_state ?_ (hpaid.spent hused hasks hanswer (.inl hfirst))
      refine accounts_assign_bind (fun _ => rfl) ?_
      refine (accounts_of_keeps aside_account.keeps_saveRun).bind fun _ _ => ?_
      refine (accounts_of_keeps (keepsAccount_advance _)).bind fun _ _ => ?_
      refine accounts_describeEach hused ?_ _ (by simp) _
      unfold HarvestEnvironment.tablesInScope
      rw [hlisted]
      exact List.Subset.refl _

/-- **Profiling a field** keeps the account. -/
theorem accounts_profileField (hused : 0 ≤ input.budget.queriesUsed) {table : SourceTable}
    (htable : table.paths ⊆ input.env.fieldPaths input.scope) {field : SourceField}
    (hfield : field ∈ table.fields) :
    Accounts input (profileField input.env table input.source.storeSampleValues field)
      fun profiled => profiled.name = field.name := by
  apply accounts_self_bind
  intro h hpaid
  split
  next => exact (accounts_pure rfl).from_state hpaid
  next hleft =>
      have hasks : input.Asks (.profileField ⟨table.database, table.name, field.name⟩) :=
        htable (List.mem_map.2 ⟨field, hfield, rfl⟩)
      have hrows : h.run.budget.sampleRows = input.budget.sampleRows := hpaid.sampleRows
      have hanswers : input.answers (.profileField ⟨table.database, table.name, field.name⟩) =
          (input.env.connector.profileField ⟨table.database, table.name, field.name⟩
            h.run.budget.sampleRows input.source.storeSampleValues).isOk := by
        rw [hrows]
        rfl
      apply triple_state_assign
      split
      next message hmessage =>
          rw [hmessage] at hanswers
          exact (accounts_pure rfl).from_state (hpaid.called hasks hanswers)
      next profile hprofile =>
          rw [hprofile] at hanswers
          apply triple_state_assign
          refine Accounts.from_state ?_ (hpaid.spent hused hasks hanswers (.inr hleft))
          refine accounts_assign_bind (fun _ => rfl) ?_
          refine (accounts_of_keeps aside_account.keeps_saveRun).bind fun _ _ => ?_
          exact accounts_pure rfl

theorem accounts_profileEach (hused : 0 ≤ input.budget.queriesUsed) {table : SourceTable}
    (htable : table.paths ⊆ input.env.fieldPaths input.scope) {fields : List SourceField}
    (hfields : fields ⊆ table.fields) :
    Accounts input (profileEach input.env table input.source.storeSampleValues fields)
      fun profiled => profiled.map SourceField.name = fields.map SourceField.name := by
  induction fields with
  | nil => exact accounts_pure rfl
  | cons field rest ih =>
      refine (accounts_profileField hused htable (hfields List.mem_cons_self)).bind
        fun profiled hname => ?_
      refine (ih fun other hother => hfields (List.mem_cons_of_mem _ hother)).bind
        fun others hnames => ?_
      apply accounts_pure
      rw [List.map_cons, List.map_cons, hname, hnames]

theorem paths_of_names {table : SourceTable} {fields : List SourceField}
    (hnames : fields.map SourceField.name = table.fields.map SourceField.name) :
    SourceTable.paths { table with fields := fields } = table.paths := by
  have hpaths := congrArg (List.map fun name =>
    FieldPath.mk table.database table.name name) hnames
  rw [List.map_map, List.map_map] at hpaths
  exact hpaths

theorem accounts_profileTables (hused : 0 ≤ input.budget.queriesUsed) {tables : List SourceTable}
    (htables : ∀ table ∈ tables, table.paths ⊆ input.env.fieldPaths input.scope) :
    Accounts input (profileTables input.env input.source.storeSampleValues tables)
      fun profiled => profiled.map SourceTable.paths = tables.map SourceTable.paths := by
  induction tables with
  | nil => exact accounts_pure rfl
  | cons table rest ih =>
      refine (accounts_of_keeps keepsAccount_checkpoint).bind fun _ _ => ?_
      refine (accounts_profileEach hused (htables table List.mem_cons_self)
        (List.Subset.refl _)).bind fun fields hnames => ?_
      refine (ih fun other hother => htables other (List.mem_cons_of_mem _ hother)).bind
        fun profiled hpaths => ?_
      apply accounts_pure
      rw [List.map_cons, List.map_cons, hpaths, paths_of_names hnames]

theorem mem_places {version : CatalogVersion} {entry : CatalogEntry}
    (hversion : ∀ table ∈ version.tables, table.paths ⊆ input.env.fieldPaths input.scope)
    (hentry : entry ∈ catalogEntries
      ((input.source.dataSourceId, version) :: input.peerCatalogs)) :
    (entry.dataSourceId,
      FieldPath.mk entry.table.database entry.table.name entry.field.name) ∈ input.places := by
  obtain ⟨found, hfound, htable, hfield⟩ := mem_catalogEntries.1 hentry
  have hpath : FieldPath.mk entry.table.database entry.table.name entry.field.name ∈
      entry.table.paths := List.mem_map.2 ⟨entry.field, hfield, rfl⟩
  unfold HarvestInput.places
  obtain hown | hpeer := List.mem_cons.1 hfound
  · obtain ⟨hsource, rfl⟩ := Prod.mk.inj hown
    rw [hsource]
    exact List.mem_append_left _ (List.mem_map.2 ⟨_, hversion _ htable hpath, rfl⟩)
  · refine List.mem_append_right _ (List.mem_flatMap.2 ⟨_, hpeer, ?_⟩)
    exact List.mem_flatMap.2 ⟨entry.table, htable, List.mem_map.2 ⟨_, hpath, rfl⟩⟩

/-- The two sides of a candidate, as the source is asked about them. -/
def CandidatePair.AskedOf (input : HarvestInput) (candidate : CandidatePair) : Prop :=
  input.Asks (.measureOverlap
    (candidate.leftDataSourceId,
      ⟨candidate.leftTable.database, candidate.leftTable.name, candidate.leftField.name⟩)
    (candidate.rightDataSourceId,
      ⟨candidate.rightTable.database, candidate.rightTable.name, candidate.rightField.name⟩))

theorem asks_candidate {version : CatalogVersion} {candidate : CandidatePair}
    (hversion : ∀ table ∈ version.tables, table.paths ⊆ input.env.fieldPaths input.scope)
    (h : candidate ∈ (generateCandidates input.env.rules
      ((input.source.dataSourceId, version) :: input.peerCatalogs)).1) :
    candidate.AskedOf input := by
  obtain ⟨left, hleft, right, hright, hpair⟩ := mem_pairAll (TableRows.mem_orderedBy.1 h)
  obtain ⟨hsource, htable, hfield, hsource', htable', hfield'⟩ := pairUp_eq_some hpair
  unfold CandidatePair.AskedOf
  rw [hsource, htable, hfield, hsource', htable', hfield']
  exact ⟨mem_places hversion (List.mem_of_mem_filter hleft),
    mem_places hversion (List.mem_of_mem_filter hright)⟩

/-- **Inference** keeps the account. -/
theorem accounts_inferEach (hused : 0 ≤ input.budget.queriesUsed) (version : CatalogVersion)
    (passedOver : Finset (Sym2 FieldIdentity)) {candidates : List CandidatePair}
    (hasked : ∀ candidate ∈ candidates, candidate.AskedOf input) (proposals : List Relation) :
    Accounts input (inferEach input.env version passedOver candidates proposals)
      fun _ => True := by
  induction candidates generalizing proposals with
  | nil => exact accounts_pure trivial
  | cons candidate rest ih =>
      have hasks := hasked candidate List.mem_cons_self
      have hrest : ∀ other ∈ rest, other.AskedOf input :=
        fun other hother => hasked other (List.mem_cons_of_mem _ hother)
      refine (accounts_of_keeps keepsAccount_checkpoint).bind fun _ _ => ?_
      apply accounts_self_bind
      intro h hpaid
      split
      next => exact (accounts_pure trivial).from_state hpaid
      next hleft =>
          split
          next => exact (ih hrest proposals).from_state hpaid
          next =>
              have hanswers := congrArg (fun rows => (input.env.connector.measureOverlap
                (candidate.leftDataSourceId, ⟨candidate.leftTable.database,
                  candidate.leftTable.name, candidate.leftField.name⟩)
                (candidate.rightDataSourceId, ⟨candidate.rightTable.database,
                  candidate.rightTable.name, candidate.rightField.name⟩) rows).isOk)
                hpaid.sampleRows
              apply triple_state_assign
              split
              next message hmessage =>
                  rw [hmessage] at hanswers
                  exact (ih hrest proposals).from_state (hpaid.called hasks hanswers.symm)
              next overlap hoverlap =>
                  rw [hoverlap] at hanswers
                  apply triple_state_assign
                  refine Accounts.from_state ?_
                    (hpaid.spent hused hasks hanswers.symm (.inr hleft))
                  split
                  · exact ih hrest proposals
                  · refine (accounts_of_keeps aside_account.keeps_newId).bind fun _ _ => ?_
                    refine (accounts_of_keeps aside_account.keeps_clockNow).bind fun _ _ => ?_
                    exact ih hrest _

theorem accounts_inferRelations (hused : 0 ≤ input.budget.queriesUsed)
    {version : CatalogVersion}
    (hversion : ∀ table ∈ version.tables, table.paths ⊆ input.env.fieldPaths input.scope)
    (suppressed : Finset (Sym2 FieldIdentity)) :
    Accounts input (inferRelations input.env input.source version input.peerCatalogs suppressed)
      fun _ => True := by
  refine (accounts_of_keeps (keepsAccount_advance _)).bind fun _ _ => ?_
  refine accounts_assign_bind (fun _ => rfl) ?_
  refine (accounts_of_keeps aside_account.keeps_connect).bind fun _ _ => ?_
  refine (accounts_of_keeps keeps_self).bind fun harvesting _ => ?_
  refine (accounts_inferEach hused _ _ (fun candidate hcandidate =>
    asks_candidate hversion hcandidate) _).bind fun found _ => ?_
  refine (accounts_of_keeps (keepsAccount_addProposals _)).bind fun _ _ => ?_
  refine accounts_assign_bind (fun _ => rfl) ?_
  exact accounts_of_keeps aside_account.keeps_saveRun

theorem accounts_record (hused : 0 ≤ input.budget.queriesUsed) {version : CatalogVersion}
    (hversion : ∀ table ∈ version.tables, table.paths ⊆ input.env.fieldPaths input.scope) :
    Accounts input (record input.env input.source input.peerCatalogs version)
      fun _ => True := by
  refine (accounts_of_keeps (keepsAccount_write _)).bind fun _ _ => ?_
  refine (accounts_of_keeps aside_account.keeps_clockNow).bind fun reconciledAt _ => ?_
  refine (accounts_of_keeps (keepsAccount_reconcilePrevious _ _ _)).bind fun suppressed _ => ?_
  refine (accounts_inferRelations hused hversion suppressed).bind fun _ _ => ?_
  refine (accounts_of_keeps keepsAccount_checkpoint).bind fun _ _ => ?_
  refine (accounts_of_keeps aside_account.keeps_clockNow).bind fun completedAt _ => ?_
  refine (accounts_of_keeps (keepsAccount_call
    (.complete version.catalogVersionId completedAt) (by simp))).bind fun _ _ => ?_
  refine (accounts_of_keeps aside_account.keeps_saveRun).bind fun _ _ => ?_
  exact accounts_pure trivial

/-- **Every outcome.**  Whatever the source answers, the budget counts the calls that it answers,
and no more of them than it allows. -/
theorem executeHarvest_paid (hused : 0 ≤ input.budget.queriesUsed) :
    Triple (fun h => Paid input h.account ∧ h.calls = [])
      (executeHarvest input.env input.source input.peerCatalogs)
      (fun _ h => Paid input h.account) fun _ h => Paid input h.account := by
  have hbody : Triple (fun h => Paid input h.account ∧ h.calls = [])
      (do
        let version ← discover input.env input.source input.peerCatalogs
        return some version)
      (fun _ h => Paid input h.account) fun _ h => Paid input h.account := by
    refine Triple.bind ?_ fun version => triple_pure fun _ hs => hs
    have hfirst : ∀ {m : HarvestMethod Unit}, Keeps Harvesting.account m →
        Triple (fun h => Paid input h.account ∧ h.calls = []) m
          (fun _ h => Paid input h.account ∧ h.calls = []) fun _ h => Paid input h.account :=
      fun hm => (hm.preserves fun account => Paid input account ∧ account.calls = []).conseq
        (fun _ hs => hs) (fun _ _ hs => hs) fun _ _ hs => hs.1
    refine Triple.bind (hfirst (keepsAccount_advance _)) fun _ => ?_
    refine Triple.bind (hfirst keepsAccount_checkpoint) fun _ => ?_
    refine Triple.bind (describeTables_paid hused) fun described => ?_
    intro s hs
    have hrest : Accounts input (do
        checkpoint input.env
        let tables ← profileFields input.env described.1 input.source.storeSampleValues
        checkpoint input.env
        let catalogVersionId ← newId input.env
        let createdAt ← clockNow input.env
        let harvesting ← self
        record input.env input.source input.peerCatalogs
          { catalogVersionId := catalogVersionId
            dataSourceId := input.source.dataSourceId
            organizationId := input.source.organizationId
            harvestRunId := harvesting.run.harvestRunId
            createdAt := createdAt
            tables := tables
            unreadable := described.2 }) fun _ => True := by
      refine (accounts_of_keeps keepsAccount_checkpoint).bind fun _ _ => ?_
      refine Accounts.bind ((accounts_of_keeps (keepsAccount_advance _)).bind fun _ _ =>
        accounts_profileTables hused hs.2) fun tables htables => ?_
      refine (accounts_of_keeps keepsAccount_checkpoint).bind fun _ _ => ?_
      refine (accounts_of_keeps aside_account.keeps_newId).bind fun catalogVersionId _ => ?_
      refine (accounts_of_keeps aside_account.keeps_clockNow).bind fun createdAt _ => ?_
      refine (accounts_of_keeps keeps_self).bind fun harvesting _ => ?_
      refine accounts_record hused ?_
      intro table htable
      have hpaths : table.paths ∈ described.1.map SourceTable.paths := by
        rw [← htables]
        exact List.mem_map_of_mem htable
      obtain ⟨original, horiginal, hsame⟩ := List.mem_map.1 hpaths
      rw [← hsame]
      exact hs.2 original horiginal
    exact (hrest.conseq (fun _ h => h) (fun _ _ h => h.1) fun _ _ h => h) s hs.1
  refine hbody.catching fun e => ?_
  exact (accounts_of_keeps (keepsAccount_giveUp e)).conseq (fun _ hs => hs) (fun _ _ hs => hs.1)
    fun _ _ hs => hs

end Outcomes

end Connector

end Zentra
