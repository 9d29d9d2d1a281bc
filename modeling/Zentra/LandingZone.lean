import Zentra.HarvestExecution
import Zentra.PythonNumbers
import Zentra.PythonCsv

/-!
# Landing uploaded files

A CSV file is inspected, and then landed as a table: the inspection gives each column a name and a
type, the table is created with these, and the file is inserted as it is, with its own header.

* `KeepsColumns` — every column of the file has a column of the table;
* `sanitiseIdentifier_eq_self_iff`, `keeps_columns_iff` — they do if the header is clean: the names
  that sanitising leaves alone.
-/

open PythonText PythonNumbers PythonCsv TableRows

namespace Zentra

namespace Connector

inductive ColumnType
  | int64 | float64 | date | string
  deriving DecidableEq, Repr

def ColumnType.declared : ColumnType → String
  | int64 => "Nullable(Int64)"
  | float64 => "Nullable(Float64)"
  | date => "Nullable(Date)"
  | string => "Nullable(String)"

section Inference

variable (data : CharacterData)

def sanitiseIdentifier (name : String) : String :=
  let replaced := (strip name).toList.map fun c => if data.alnum c then c else '_'
  let kept := trim (· = '_') replaced
  let cleaned := if kept = [] then "column".toList else kept
  let prefixed := if (cleaned.head?.any data.digit) then 'c' :: '_' :: cleaned else cleaned
  String.ofList (prefixed.take 64)

/-- Ten characters, the fifth and the eighth of them dashes. -/
def dateShaped (value : String) : Bool :=
  value.length = 10 && value.toList[4]? = some '-' && value.toList[7]? = some '-'

/-- Digits behind any number of dashes. -/
def integerShaped (value : String) : Bool :=
  isDigitText data (value.toList.dropWhile (· = '-'))

/-- A text that `float` reads, and not as `nan`. -/
def floatShaped (value : String) : Bool := floatOf data value.toList = some .number

def inferType (values : List String) : ColumnType :=
  let seen := values.filter (· ≠ "")
  if seen = [] then .string
  else if seen.all (integerShaped data) then .int64
  else if seen.all (floatShaped data) then .float64
  else if seen.all dateShaped then .date
  else .string

end Inference

inductive InspectError
  | uploadRejected (message : String) (row : Option Nat)
  /-- what `csv.reader` raises -/
  | csv (message : String)
  deriving DecidableEq, Repr

/-- How many rows are read to guess a column's type. -/
def typeInferenceRows : Nat := 200

/-- What is kept of the rows that were read. -/
structure Sampled where
  rows : List (List String) := []
  sampleColumns : List (List String)
  total : Nat := 0
  deriving DecidableEq, Repr

def Sampled.add (previewRows : Int) (sampled : Sampled) (row : List String) : Sampled :=
  let total := sampled.total + 1
  { rows := if (sampled.rows.length : Int) < previewRows then sampled.rows ++ [row]
      else sampled.rows
    sampleColumns :=
      if total ≤ typeInferenceRows then
        List.zipWith (fun column value => column ++ [value]) sampled.sampleColumns row
      else sampled.sampleColumns
    total := total }

/-- The loop over the rows, from the one with the number. -/
def inspectRows (width : Nat) (previewRows : Int) :
    Nat → Sampled → List (Except String (List String)) → Except InspectError Sampled
  | _, sampled, [] => .ok sampled
  | _, _, .error e :: _ => .error (.csv e)
  | line, sampled, .ok row :: rest =>
      if row.length ≠ width then
        .error (.uploadRejected ("Row has " ++ toString row.length ++
          " values but the header declares " ++ toString width) (some line))
      else inspectRows width previewRows (line + 1) (sampled.add previewRows row) rest

/-- The column of a name of the header. -/
def columnOf (data : CharacterData) (sampled : Sampled) (name : String) (index : Nat) :
    SourceFieldDescriptor where
  name := sanitiseIdentifier data name
  declaredType := (inferType data (sampled.sampleColumns[index]?.getD [])).declared
  nullable := true
  position := index

structure Inspection where
  columns : List SourceFieldDescriptor
  rows : List (List String)
  total : Nat
  deriving DecidableEq

/-- `_inspect_csv`, of the text that the file is decoded to if it can be. -/
def inspectCsv (data : CharacterData) (decoded : Option String) (previewRows : Int) :
    Except InspectError Inspection := do
  let some text := decoded | .error (.uploadRejected
    "File is not valid UTF-8; re-export it with UTF-8 encoding" none)
  match csvReader text with
  | [] => .error (.uploadRejected "File is empty" none)
  | .error e :: _ => .error (.csv e)
  | .ok header :: records =>
      let sampled ← inspectRows header.length previewRows 2
        { sampleColumns := header.map fun _ => [] } records
      return {
        columns := header.mapIdx fun index name => columnOf data sampled name index
        rows := sampled.rows
        total := sampled.total }

/-- **The columns of an accepted file**: one for each name of its header. -/
theorem inspectCsv_eq_ok {data : CharacterData} {text : String} {previewRows : Int}
    {inspection : Inspection} {header : List String}
    {records : List (Except String (List String))}
    (hreader : csvReader text = .ok header :: records)
    (h : inspectCsv data (some text) previewRows = .ok inspection) :
    ∃ sampled, inspection.columns =
      header.mapIdx fun index name => columnOf data sampled name index := by
  unfold inspectCsv at h
  dsimp only at h
  rw [hreader] at h
  obtain ⟨sampled, -, h⟩ := Raising.bind_eq_ok.1 h
  cases h
  exact ⟨sampled, rfl⟩

/-- What is sent to the database. -/
inductive LandingStatement (Payload : Type)
  | command (text : String)
  | rawInsert (table : String) (insertBlock : Payload) (fmt : String)

/-- `quote_identifier`. -/
def quoteColumn (name : String) : String :=
  "`" ++ String.join (name.toList.map fun c =>
    if c.toString = "`" then "``" else c.toString) ++ "`"

def qualify (database table : String) : String :=
  quoteColumn database ++ "." ++ quoteColumn table

/-- The columns in the order of the table. -/
def declaredColumns (columns : List SourceFieldDescriptor) : List SourceFieldDescriptor :=
  orderedBy (·.position) columns

def columnDdl (columns : List SourceFieldDescriptor) : String :=
  join ", " ((declaredColumns columns).map fun column =>
    quoteColumn column.name ++ " " ++ column.declaredType)

/-- `_create_and_insert`, of a CSV file. -/
def createAndInsert {Payload : Type} (database table : String)
    (columns : List SourceFieldDescriptor) (payload : Payload) :
    List (LandingStatement Payload) :=
  let target := qualify database table
  [.command ("CREATE TABLE IF NOT EXISTS " ++ target ++ " (" ++ columnDdl columns ++
      ") ENGINE = MergeTree ORDER BY tuple()"),
    .rawInsert target payload "CSVWithNames"]

/-- The names of the columns of the table. -/
def declaredNames (columns : List SourceFieldDescriptor) : List String :=
  (declaredColumns columns).map (·.name)

/-- Where a loader that matches by name puts the columns of a file. -/
def loadedAt (declared header : List String) : List (Option Nat) :=
  header.map fun name => declared.idxOf? name

/-- **Every column of the file has its column of the table**: names that differ are kept apart,
the names of the table are those that the loader looks for, and each column is loaded into the
column that was declared for it. -/
structure KeepsColumns (header : List String) (columns : List SourceFieldDescriptor) : Prop where
  length : columns.length = header.length
  distinct : (header.zip (columns.map (·.name))).Pairwise fun first second =>
    first.1 ≠ second.1 → first.2 ≠ second.2
  matched : declaredNames columns = header
  loaded : loadedAt (declaredNames columns) header = (List.range header.length).map some

/-- The name is an identifier of letters, digits and underscores, with neither a digit nor an
underscore in front, no underscore at its end, and no more than 64 characters. -/
structure CleanName (data : CharacterData) (name : String) : Prop where
  characters : ∀ c ∈ name.toList, data.alnum c = true ∨ c = '_'
  first : ∃ c, name.toList.head? = some c ∧ c ≠ '_' ∧ data.digit c = false
  last : name.toList.getLast? ≠ some '_'
  length : name.toList.length ≤ 64

section Clean

variable {data : CharacterData} {name : String}

theorem isSpace_of_alnum {c : Char} (h : data.alnum c = true ∨ c = '_') : isSpace c = false := by
  rcases h with halnum | rfl
  · by_contra hspace
    have hnot := data.alnum_space c (Bool.eq_true_of_not_eq_false hspace)
    rw [hnot] at halnum
    cases halnum
  · decide

/-- A name without white space, and without characters to replace. -/
theorem replaced_eq_self (h : ∀ c ∈ name.toList, data.alnum c = true ∨ c = '_') :
    (strip name).toList.map (fun c => if data.alnum c then c else '_') = name.toList := by
  have hspace : trim isSpace name.toList = name.toList := by
    refine trim_eq_self_iff.2 ⟨?_, ?_⟩
    · intro c hc
      exact isSpace_of_alnum (h c (List.mem_of_mem_head? hc))
    · intro c hc
      exact isSpace_of_alnum (h c (List.mem_of_mem_getLast? hc))
  rw [strip_eq_trim, hspace, String.toList_ofList]
  refine (List.map_congr_left ?_).trans (List.map_id _)
  intro c hc
  rcases h c hc with halnum | rfl
  · exact if_pos halnum
  · exact ite_self _

/-- **What is left of a name** has only letters, digits and underscores. -/
theorem characters_sanitiseIdentifier (data : CharacterData) (name : String) {c : Char}
    (h : c ∈ (sanitiseIdentifier data name).toList) : data.alnum c = true ∨ c = '_' := by
  have hcolumn : ∀ c ∈ "column".toList, data.alnum c = true := by
    intro c hc
    have hboth := List.all_eq_true.1
      (show "column".toList.all (fun c => IsAscii c && c.isAlphanum) = true by decide) c hc
    rw [Bool.and_eq_true, decide_eq_true_eq] at hboth
    rw [data.alnum_ascii c hboth.1]
    exact hboth.2
  have hc : data.alnum 'c' = true := hcolumn 'c' (by decide)
  unfold sanitiseIdentifier at h
  dsimp only at h
  rw [String.toList_ofList] at h
  replace h := List.mem_of_mem_take h
  have hcleaned : ∀ {cleaned : List Char},
      (∀ c ∈ cleaned, data.alnum c = true ∨ c = '_') →
      c ∈ (if cleaned.head?.any data.digit then 'c' :: '_' :: cleaned else cleaned) →
      data.alnum c = true ∨ c = '_' := by
    intro cleaned hclean hmem
    split at hmem
    · rcases List.mem_cons.1 hmem with rfl | hmem
      · exact .inl hc
      rcases List.mem_cons.1 hmem with rfl | hmem
      · exact .inr rfl
      · exact hclean c hmem
    · exact hclean c hmem
  refine hcleaned ?_ h
  intro d hd
  split at hd
  · exact .inl (hcolumn d hd)
  · obtain ⟨e, -, rfl⟩ := List.mem_map.1 ((trim_sublist _ _).mem hd)
    by_cases halnum : data.alnum e = true
    · rw [if_pos halnum]
      exact .inl halnum
    · exact .inr (if_neg halnum)

/-- **The names that sanitising leaves alone** are the clean ones. -/
theorem sanitiseIdentifier_eq_self_iff :
    sanitiseIdentifier data name = name ↔ CleanName data name := by
  constructor
  · intro h
    have hcharacters : ∀ c ∈ name.toList, data.alnum c = true ∨ c = '_' := by
      intro c hc
      rw [← h] at hc
      exact characters_sanitiseIdentifier data name hc
    have hlist := congrArg String.toList h
    unfold sanitiseIdentifier at hlist
    dsimp only at hlist
    rw [replaced_eq_self hcharacters, String.toList_ofList] at hlist
    have hc : data.digit 'c' = false := data.digit_ascii 'c' (by decide)
    have hcolumn : ¬ ("column".toList.head?.any data.digit = true) := by
      show ¬ (data.digit 'c' = true)
      rw [hc]
      decide
    by_cases hkept : trim (fun c => decide (c = '_')) name.toList = []
    · -- What is made of a name without letters is not made of itself.
      rw [if_pos hkept, if_neg hcolumn] at hlist
      rw [← hlist] at hkept
      exact absurd hkept (by decide)
    rw [if_neg hkept] at hlist
    by_cases hdigit : (trim (fun c => decide (c = '_')) name.toList).head?.any data.digit = true
    · -- A name that starts with `c` has no digit to be kept apart.
      rw [if_pos hdigit] at hlist
      have hdrop : name.toList.dropWhile (fun c => decide (c = '_')) = name.toList := by
        rw [← hlist]
        rfl
      obtain ⟨rest, hrest⟩ := trim_prefix_dropWhile (fun c => decide (c = '_')) name.toList
      have hstart := (hrest.trans hdrop).trans hlist.symm
      obtain ⟨first, kept, htrim⟩ := List.exists_cons_of_ne_nil hkept
      rw [htrim] at hstart hdigit
      have hfirst : first = 'c' := (List.cons.inj hstart).1
      rw [hfirst] at hdigit
      exact absurd (hc.symm.trans hdigit) (by decide)
    · rw [if_neg hdigit] at hlist
      have hlength := congrArg List.length hlist
      rw [List.length_take] at hlength
      have htrim : trim (fun c => decide (c = '_')) name.toList = name.toList :=
        (trim_sublist _ _).eq_of_length_le (by omega)
      obtain ⟨hfirst, hlast⟩ := trim_eq_self_iff.1 htrim
      rw [htrim] at hkept hdigit
      refine ⟨hcharacters, ?_, ?_, ?_⟩
      · obtain ⟨first, rest, hname⟩ := List.exists_cons_of_ne_nil hkept
        rw [hname] at hfirst hdigit
        refine ⟨first, by rw [hname]; rfl, ?_, Bool.eq_false_of_not_eq_true hdigit⟩
        exact of_decide_eq_false (hfirst first rfl)
      · intro hunder
        have hnot := hlast '_' hunder
        revert hnot
        decide
      · rw [htrim] at hlength
        omega
  · intro h
    have htrim : trim (fun c => decide (c = '_')) name.toList = name.toList := by
      obtain ⟨first, hfirst, hunder, -⟩ := h.first
      refine trim_eq_self_iff.2 ⟨?_, ?_⟩
      · intro c hc
        rw [hfirst] at hc
        cases hc
        exact decide_eq_false hunder
      · intro c hc
        exact decide_eq_false fun hsame => h.last (hsame ▸ hc)
    obtain ⟨first, hfirst, -, hdigit⟩ := h.first
    have hne : name.toList ≠ [] := by
      intro hnil
      rw [hnil] at hfirst
      cases hfirst
    have hnot : ¬ (name.toList.head?.any data.digit = true) := by
      rw [hfirst, Option.any_some, hdigit]
      decide
    unfold sanitiseIdentifier
    dsimp only
    rw [replaced_eq_self h.characters, htrim, if_neg hne, if_neg hnot,
      List.take_of_length_le h.length, String.ofList_toList]

end Clean

section Kept

variable {data : CharacterData} {header : List String} {sampled : Sampled}

theorem names_columnOf :
    (header.mapIdx fun index name => columnOf data sampled name index).map (·.name) =
      header.map (sanitiseIdentifier data) :=
  List.ext_getElem (by simp) (fun index _ _ => by simp [columnOf])

theorem declaredNames_columnOf :
    declaredNames (header.mapIdx fun index name => columnOf data sampled name index) =
      header.map (sanitiseIdentifier data) := by
  have hsorted : declaredColumns
        (header.mapIdx fun index name => columnOf data sampled name index) =
      header.mapIdx fun index name => columnOf data sampled name index := by
    refine orderedBy_eq_of_perm (.refl _) (List.pairwise_iff_getElem.2 ?_)
    intro first second hfirst hsecond hlt
    rw [List.getElem_mapIdx, List.getElem_mapIdx]
    exact Int.ofNat_lt.2 hlt
  unfold declaredNames
  rw [hsorted, names_columnOf]

theorem loadedAt_self_iff : loadedAt header header = (List.range header.length).map some ↔
    header.Nodup := by
  constructor
  · intro h
    have hnodup : (loadedAt header header).Nodup := by
      rw [h]
      exact List.Nodup.map (Option.some_injective Nat) List.nodup_range
    exact List.Nodup.of_map _ hnodup
  · intro hnodup
    unfold loadedAt
    refine List.ext_getElem (by simp) ?_
    intro index hindex _
    rw [List.getElem_map, List.getElem_map, List.getElem_range]
    rw [List.length_map] at hindex
    refine List.idxOf?_eq_some_iff.2 ⟨hindex, rfl, ?_⟩
    intro earlier hearlier hsame
    have heq := (List.Nodup.getElem_inj_iff hnodup).1 hsame
    omega

/-- **Every column is kept** exactly if the names of the header differ and are clean. -/
theorem keepsColumns_iff :
    KeepsColumns header (header.mapIdx fun index name => columnOf data sampled name index) ↔
      header.Nodup ∧ ∀ name ∈ header, CleanName data name := by
  constructor
  · intro h
    have hmatched := h.matched
    rw [declaredNames_columnOf] at hmatched
    have hloaded := h.loaded
    rw [declaredNames_columnOf, hmatched] at hloaded
    refine ⟨loadedAt_self_iff.1 hloaded, ?_⟩
    intro name hname
    refine sanitiseIdentifier_eq_self_iff.1 ?_
    exact List.map_inj_left.1 (hmatched.trans (List.map_id header).symm) name hname
  · intro ⟨hnodup, hclean⟩
    have hself : header.map (sanitiseIdentifier data) = header := by
      refine (List.map_congr_left ?_).trans (List.map_id _)
      intro name hname
      exact sanitiseIdentifier_eq_self_iff.2 (hclean name hname)
    refine ⟨List.length_mapIdx, ?_, ?_, ?_⟩
    · rw [names_columnOf, hself]
      refine List.pairwise_iff_getElem.2 ?_
      intro first second hfirst hsecond _ hne
      rw [List.getElem_zip, List.getElem_zip] at hne ⊢
      exact hne
    · rw [declaredNames_columnOf, hself]
    · rw [declaredNames_columnOf, hself]
      exact loadedAt_self_iff.2 hnodup

/-- **Every column of an accepted file is kept** exactly if the names of its header differ and
are clean: then the names are declared as they are. -/
theorem keeps_columns_iff {text : String} {previewRows : Int} {inspection : Inspection}
    {records : List (Except String (List String))}
    (hreader : csvReader text = .ok header :: records)
    (hinspect : inspectCsv data (some text) previewRows = .ok inspection) :
    KeepsColumns header inspection.columns ↔
      header.Nodup ∧ ∀ name ∈ header, CleanName data name := by
  obtain ⟨sampled, hcolumns⟩ := inspectCsv_eq_ok hreader hinspect
  rw [hcolumns]
  exact keepsColumns_iff

end Kept

theorem keeps_columns_iff_orders :
    ∃ inspection,
      inspectCsv .ascii (some "id,total_2024\n7,19.5\n") 20 = .ok inspection ∧
      (KeepsColumns ["id", "total_2024"] inspection.columns ↔
        ["id", "total_2024"].Nodup ∧
          ∀ name ∈ ["id", "total_2024"], CleanName .ascii name) :=
  ⟨{ columns :=
      [{ name := "id", declaredType := "Nullable(Int64)", nullable := true, position := 0 },
       { name := "total_2024", declaredType := "Nullable(Float64)", nullable := true
         position := 1 }]
     rows := [["7", "19.5"]]
     total := 1 },
    by decide,
    @keeps_columns_iff .ascii ["id", "total_2024"] "id,total_2024\n7,19.5\n" 20 _
      [.ok ["7", "19.5"]] (by decide) (by decide)⟩

/-- **Two names become one.** -/
theorem customer_columns_merged :
    ∃ inspection,
      inspectCsv .ascii (some "customer id,customer_id\n7,8\n") 20 = .ok inspection ∧
      inspection.columns.map (·.name) = ["customer_id", "customer_id"] ∧
      loadedAt (declaredNames inspection.columns) ["customer id", "customer_id"] =
        [none, some 0] ∧
      ¬ KeepsColumns ["customer id", "customer_id"] inspection.columns := by
  refine ⟨_, rfl, by decide, by decide, ?_⟩
  intro h
  exact absurd h.matched (by decide)

end Connector

end Zentra
