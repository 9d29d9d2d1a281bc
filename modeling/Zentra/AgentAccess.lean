import Zentra.SourceCatalog

/-!
# Which harvested tables and fields agents may see

Every table and field is visible to agents by default.  An override is one decision that a
table, or one field of it, is not; the latest decision counts.

* `build_perm` — the order in which the overrides are listed does not matter;
* `apply_sameBut` — what is hidden does not show in the version behind the gate.
-/

open TableRows

namespace Zentra

namespace Connector

/-- One decision that a table, or one field within it, is not for agents.  An override
without a field is about the table. -/
structure CatalogAccessOverride where
  overrideId : UUID
  organizationId : UUID
  dataSourceId : UUID
  tableName : String
  fieldName : Option String
  agentVisible : Bool
  decidedBy : UUID
  decidedAt : Int
  deriving DecidableEq, Repr

def CatalogAccessOverride.About (override : CatalogAccessOverride) (tableName : String)
    (fieldName : Option String) : Prop :=
  override.tableName = tableName ∧ override.fieldName = fieldName

instance (override : CatalogAccessOverride) (tableName : String) (fieldName : Option String) :
    Decidable (override.About tableName fieldName) :=
  inferInstanceAs (Decidable (_ ∧ _))

/-- The latest override for each table and for each field. -/
structure AccessOverrides where
  dataSourceId : UUID
  byTable : List (String × CatalogAccessOverride) := []
  byField : List ((String × String) × CatalogAccessOverride) := []

namespace AccessOverrides

/-- The body of the loop of `build`. -/
def record (gate : AccessOverrides) (override : CatalogAccessOverride) : AccessOverrides :=
  match override.fieldName with
  | none =>
      { gate with byTable := setItem Prod.fst gate.byTable (override.tableName, override) }
  | some fieldName =>
      { gate with
        byField := setItem Prod.fst gate.byField ((override.tableName, fieldName), override) }

/-- Construction keeps only the most recent override for each table and field. -/
def build (dataSourceId : UUID) (overrides : List CatalogAccessOverride) : AccessOverrides :=
  (orderedBy (·.decidedAt) overrides).foldl record { dataSourceId := dataSourceId }

/-- `is_table_visible`. -/
def IsTableVisible (gate : AccessOverrides) (tableName : String) : Prop :=
  ∀ override ∈ getItem gate.byTable tableName, override.agentVisible = true

instance (gate : AccessOverrides) : DecidablePred gate.IsTableVisible := fun _ =>
  inferInstanceAs (Decidable (∀ _ ∈ _, _))

/-- `is_field_visible`: only if both its table and the field itself are. -/
def IsFieldVisible (gate : AccessOverrides) (tableName fieldName : String) : Prop :=
  gate.IsTableVisible tableName ∧
    ∀ override ∈ getItem gate.byField (tableName, fieldName), override.agentVisible = true

instance (gate : AccessOverrides) (tableName fieldName : String) :
    Decidable (gate.IsFieldVisible tableName fieldName) :=
  inferInstanceAs (Decidable (_ ∧ ∀ _ ∈ _, _))

def visibleFields (gate : AccessOverrides) (tableName : String) (fields : List SourceField) :
    List SourceField :=
  select (fun field => gate.IsFieldVisible tableName field.name) fields

/-- A table with its hidden fields dropped. -/
def visibleTable (gate : AccessOverrides) (table : SourceTable) : SourceTable :=
  { table with fields := gate.visibleFields table.name table.fields }

def visibleTables (gate : AccessOverrides) (tables : List SourceTable) : List SourceTable :=
  (select (fun table => gate.IsTableVisible table.name) tables).map gate.visibleTable

/-- A Catalog Version with every hidden table and field dropped. -/
def apply (gate : AccessOverrides) (version : CatalogVersion) : CatalogVersion :=
  { version with tables := gate.visibleTables version.tables }

end AccessOverrides

/-- There is a decision about the table, or about the field of it, and the latest one
hides it. -/
def Hides (overrides : List CatalogAccessOverride) (tableName : String)
    (fieldName : Option String) : Prop :=
  (∃ override ∈ overrides, override.About tableName fieldName) ∧
    ∀ override ∈ overrides, override.About tableName fieldName →
      (∀ other ∈ overrides, other.About tableName fieldName →
        other.decidedAt ≤ override.decidedAt) →
      override.agentVisible = false

instance (overrides : List CatalogAccessOverride) (tableName : String)
    (fieldName : Option String) : Decidable (Hides overrides tableName fieldName) :=
  inferInstanceAs (Decidable (_ ∧ ∀ override ∈ overrides, _ → _ → _))

def HidesField (overrides : List CatalogAccessOverride) (tableName fieldName : String) : Prop :=
  Hides overrides tableName none ∨ Hides overrides tableName (some fieldName)

instance (overrides : List CatalogAccessOverride) (tableName fieldName : String) :
    Decidable (HidesField overrides tableName fieldName) :=
  inferInstanceAs (Decidable (_ ∨ _))

namespace AccessOverrides

variable {overrides listed : List CatalogAccessOverride} {dataSourceId : UUID}
  {tableName fieldName : String} {override : CatalogAccessOverride}

def lastAbout (overrides : List CatalogAccessOverride) (tableName : String)
    (fieldName : Option String) : Option CatalogAccessOverride :=
  (select (·.About tableName fieldName) overrides).getLast?

theorem lastAbout_append (overrides : List CatalogAccessOverride)
    (override : CatalogAccessOverride) (tableName : String) (fieldName : Option String) :
    lastAbout (overrides ++ [override]) tableName fieldName =
      if override.About tableName fieldName then some override
      else lastAbout overrides tableName fieldName := by
  unfold lastAbout select
  rw [List.filter_append]
  split
  next habout => simp [habout]
  next habout => simp [habout]

/-- What the gate holds about a table after one more override. -/
theorem byTable_record (gate : AccessOverrides) (override : CatalogAccessOverride)
    (tableName : String) :
    getItem (gate.record override).byTable tableName =
      if override.About tableName none then some override
      else getItem gate.byTable tableName := by
  unfold record CatalogAccessOverride.About
  split
  next hfield =>
      rw [getItem_setItem]
      simp [hfield, eq_comm]
  next hfield => simp [hfield]

theorem byField_record (gate : AccessOverrides) (override : CatalogAccessOverride)
    (tableName fieldName : String) :
    getItem (gate.record override).byField (tableName, fieldName) =
      if override.About tableName (some fieldName) then some override
      else getItem gate.byField (tableName, fieldName) := by
  unfold record CatalogAccessOverride.About
  split
  next hfield => simp [hfield]
  next name hfield =>
      rw [getItem_setItem]
      simp [hfield, eq_comm]

/-- **What the gate holds** is the last decision about each table and each field. -/
theorem foldl_record (dataSourceId : UUID) (overrides : List CatalogAccessOverride) :
    (∀ tableName, getItem (overrides.foldl record { dataSourceId := dataSourceId }).byTable
        tableName = lastAbout overrides tableName none) ∧
      ∀ tableName fieldName,
        getItem (overrides.foldl record { dataSourceId := dataSourceId }).byField
          (tableName, fieldName) = lastAbout overrides tableName (some fieldName) := by
  induction overrides using List.reverseRecOn with
  | nil => exact ⟨fun _ => rfl, fun _ _ => rfl⟩
  | append_singleton overrides override ih =>
      rw [List.foldl_append]
      constructor
      · intro tableName
        rw [lastAbout_append, ← ih.1]
        exact byTable_record _ override tableName
      · intro tableName fieldName
        rw [lastAbout_append, ← ih.2]
        exact byField_record _ override tableName fieldName

/-- **The last decision in the order of their times** is one of the latest. -/
theorem lastAbout_hides {fieldName : Option String}
    (h : Hides overrides tableName fieldName) :
    ∃ override ∈ lastAbout (orderedBy (·.decidedAt) overrides) tableName fieldName,
      override.agentVisible = false := by
  obtain ⟨⟨some, hsome, habout⟩, hlatest⟩ := h
  have hne : select (·.About tableName fieldName) (orderedBy (·.decidedAt) overrides) ≠ [] :=
    List.ne_nil_of_mem (mem_select.2 ⟨mem_orderedBy.2 hsome, habout⟩)
  obtain ⟨hmem, hlast⟩ := mem_select.1 (List.getLast_mem hne)
  refine ⟨_, List.getLast?_eq_getLast_of_ne_nil hne, ?_⟩
  refine hlatest _ (mem_orderedBy.1 hmem) hlast fun other hother habout => ?_
  have hordered : (select (·.About tableName fieldName)
      (orderedBy (·.decidedAt) overrides)).Pairwise fun a b => a.decidedAt ≤ b.decidedAt :=
    orderedBy_pairwise.filter _
  exact hordered.rel_getLast_of_rel_getLast_getLast
    (mem_select.2 ⟨mem_orderedBy.2 hother, habout⟩) (le_refl _)

theorem byTable_build (dataSourceId : UUID) (overrides : List CatalogAccessOverride)
    (tableName : String) :
    getItem (build dataSourceId overrides).byTable tableName =
      lastAbout (orderedBy (·.decidedAt) overrides) tableName none :=
  (foldl_record dataSourceId _).1 tableName

theorem byField_build (dataSourceId : UUID) (overrides : List CatalogAccessOverride)
    (tableName fieldName : String) :
    getItem (build dataSourceId overrides).byField (tableName, fieldName) =
      lastAbout (orderedBy (·.decidedAt) overrides) tableName (some fieldName) :=
  (foldl_record dataSourceId _).2 tableName fieldName

/-- **A hidden table is not visible.** -/
theorem not_isTableVisible_of_hides (h : Hides overrides tableName none) :
    ¬ (build dataSourceId overrides).IsTableVisible tableName := by
  intro hvisible
  obtain ⟨override, hlast, hhidden⟩ := lastAbout_hides h
  rw [← byTable_build dataSourceId] at hlast
  rw [hvisible override hlast] at hhidden
  cases hhidden

/-- **A hidden field is not visible**, nor is a field of a hidden table. -/
theorem not_isFieldVisible_of_hides (h : HidesField overrides tableName fieldName) :
    ¬ (build dataSourceId overrides).IsFieldVisible tableName fieldName := by
  intro hvisible
  rcases h with htable | hfield
  · exact not_isTableVisible_of_hides htable hvisible.1
  · obtain ⟨override, hlast, hhidden⟩ := lastAbout_hides hfield
    rw [← byField_build dataSourceId] at hlast
    rw [hvisible.2 override hlast] at hhidden
    cases hhidden

/-- **The order in which the overrides are listed** does not matter, if no two were decided
at the same time. -/
theorem build_perm (dataSourceId : UUID) (hperm : listed.Perm overrides)
    (htimes : (overrides.map (·.decidedAt)).Nodup) :
    build dataSourceId listed = build dataSourceId overrides := by
  unfold build
  rw [orderedBy_congr hperm htimes]

end AccessOverrides

def SourceTable.SameButHidden (overrides : List CatalogAccessOverride)
    (table other : SourceTable) : Prop :=
  other = { table with fields := other.fields } ∧
    SameBut (fun field : SourceField => HidesField overrides table.name field.name) (· = ·)
      table.fields other.fields

def CatalogVersion.SameButHidden (overrides : List CatalogAccessOverride)
    (version other : CatalogVersion) : Prop :=
  other = { version with tables := other.tables } ∧
    SameBut (fun table : SourceTable => Hides overrides table.name none)
      (SourceTable.SameButHidden overrides) version.tables other.tables

namespace AccessOverrides

variable {overrides : List CatalogAccessOverride} {dataSourceId : UUID}

theorem visibleTable_sameBut {table other : SourceTable}
    (h : table.SameButHidden overrides other) :
    (build dataSourceId overrides).visibleTable table =
      (build dataSourceId overrides).visibleTable other := by
  obtain ⟨hother, hfields⟩ := h
  have hvisible : ((build dataSourceId overrides).visibleFields table.name
      table.fields).map id =
        ((build dataSourceId overrides).visibleFields table.name other.fields).map id := by
    refine hfields.map_select (fun field hhidden => not_isFieldVisible_of_hides hhidden) ?_
    intro field other hsame
    subst hsame
    exact ⟨Iff.rfl, rfl⟩
  rw [List.map_id, List.map_id] at hvisible
  rw [hother]
  unfold visibleTable
  simp only [hvisible]

/-- **Hidden tables and fields do not show** behind the gate. -/
theorem apply_sameBut {version other : CatalogVersion}
    (h : version.SameButHidden overrides other) :
    (build dataSourceId overrides).apply version =
      (build dataSourceId overrides).apply other := by
  obtain ⟨hother, htables⟩ := h
  have hvisible : (build dataSourceId overrides).visibleTables version.tables =
      (build dataSourceId overrides).visibleTables other.tables := by
    refine htables.map_select (fun table hhidden => not_isTableVisible_of_hides hhidden) ?_
    intro table other hsame
    refine ⟨?_, visibleTable_sameBut hsame⟩
    rw [hsame.1]
  rw [hother]
  unfold apply
  simp only [hvisible]

/-- **No hidden table and no hidden field** is in a version behind the gate. -/
theorem not_hides_of_mem_apply {version : CatalogVersion} {table : SourceTable}
    (htable : table ∈ ((build dataSourceId overrides).apply version).tables) :
    ¬ Hides overrides table.name none ∧
      ∀ field ∈ table.fields, ¬ HidesField overrides table.name field.name := by
  obtain ⟨harvested, hharvested, rfl⟩ := List.mem_map.1 htable
  obtain ⟨-, hvisible⟩ := mem_select.1 hharvested
  refine ⟨fun hhidden => not_isTableVisible_of_hides hhidden hvisible, ?_⟩
  intro field hfield hhidden
  exact not_isFieldVisible_of_hides hhidden (mem_select.1 hfield).2

end AccessOverrides

end Connector

end Zentra
