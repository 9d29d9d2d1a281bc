import Zentra.JsMap

/-!
# What a file sync plans and records

The metadata of the analytics tables, and the two sides of it in `TableSyncService`
(`libs/foundation/data-layer/src/analytics-sync/table-sync-service.ts`): which files of a
response are to be downloaded, and what is stored for a table once they are.

* `needsUpdate`, `getFilesToDownload`, `analyzeUpdates` — the plans of an analysis;
* `createLocalMetadata` — the entry of a table that was synced.

Times are integers.
-/

namespace Zentra.FileSync

structure DataSourceFileInfo where
  filename : String
  url : String
  size : Nat
  hash : Option String
  rowCount : Option Nat
  deriving DecidableEq, Repr

structure DataSourceTableInfo where
  name : String
  lastIngestedAt : Int
  files : List DataSourceFileInfo
  totalSize : Nat
  totalRows : Nat
  deriving DecidableEq, Repr

structure DataSourceResponse where
  tables : List DataSourceTableInfo
  deriving DecidableEq, Repr

structure LocalTableMetadata where
  name : String
  lastIngestedAt : Int
  loadedAt : Int
  fileHashes : JsMap String String
  totalSize : Nat
  totalRows : Nat
  deriving DecidableEq

structure TableUpdatePlan where
  tableName : String
  needsUpdate : Bool
  filesToDownload : List DataSourceFileInfo
  remoteInfo : DataSourceTableInfo
  deriving DecidableEq, Repr

/-- A table that was never synced needs an update, and one that was ingested since. -/
def needsUpdate (remote : DataSourceTableInfo) : Option LocalTableMetadata → Bool
  | none => true
  | some metadata => metadata.lastIngestedAt < remote.lastIngestedAt

/-- The file is not stored with its hash: it has none, or an empty one, or another is. -/
def isMissing (metadata : LocalTableMetadata) (file : DataSourceFileInfo) : Bool :=
  match metadata.fileHashes.get file.filename with
  | none => true
  | some localHash => localHash = "" || some localHash ≠ file.hash

def getFilesToDownload (remote : DataSourceTableInfo) :
    Option LocalTableMetadata → List DataSourceFileInfo
  | none => remote.files
  | some metadata => remote.files.filter (isMissing metadata)

def planTable (remote : DataSourceTableInfo) (metadata : Option LocalTableMetadata) :
    TableUpdatePlan where
  tableName := remote.name
  needsUpdate := needsUpdate remote metadata
  filesToDownload := if needsUpdate remote metadata then getFilesToDownload remote metadata else []
  remoteInfo := remote

def analyzeUpdates (response : DataSourceResponse)
    (localMetadata : String → Option LocalTableMetadata) : List TableUpdatePlan :=
  (response.tables.map fun remote => planTable remote (localMetadata remote.name)).filter
    fun plan => plan.needsUpdate && plan.filesToDownload ≠ []

/-- Only the files with a hash are kept. -/
def createLocalMetadata (now : Int) (tableName : String) (info : DataSourceTableInfo) :
    LocalTableMetadata where
  name := tableName
  lastIngestedAt := info.lastIngestedAt
  loadedAt := now
  fileHashes := info.files.foldl (fun hashes file =>
    match file.hash with
    | none => hashes
    | some hash => if hash = "" then hashes else hashes.set file.filename hash) .empty
  totalSize := info.totalSize
  totalRows := info.totalRows

section

variable {response : DataSourceResponse} {localMetadata : String → Option LocalTableMetadata}
  {plan : TableUpdatePlan}

/-- **The plans** of an analysis are those of the tables that are ahead and miss files. -/
theorem mem_analyzeUpdates : plan ∈ analyzeUpdates response localMetadata ↔
    ∃ remote ∈ response.tables, plan = planTable remote (localMetadata remote.name) ∧
      needsUpdate remote (localMetadata remote.name) = true ∧
      getFilesToDownload remote (localMetadata remote.name) ≠ [] := by
  rw [analyzeUpdates, List.mem_filter, List.mem_map]
  constructor
  · intro ⟨⟨remote, hremote, hplan⟩, hneeds⟩
    subst hplan
    rw [Bool.and_eq_true, decide_eq_true_eq] at hneeds
    obtain ⟨hneeds, hfiles⟩ := hneeds
    have hahead : needsUpdate remote (localMetadata remote.name) = true := hneeds
    refine ⟨remote, hremote, rfl, hahead, ?_⟩
    rw [planTable] at hfiles
    dsimp only at hfiles
    rwa [if_pos hahead] at hfiles
  · rintro ⟨remote, hremote, rfl, hahead, hfiles⟩
    refine ⟨⟨remote, hremote, rfl⟩, ?_⟩
    rw [Bool.and_eq_true, decide_eq_true_eq]
    refine ⟨hahead, ?_⟩
    rw [planTable]
    dsimp only
    rwa [if_pos hahead]

theorem analyzeUpdates_eq_nil
    (h : ∀ remote ∈ response.tables, needsUpdate remote (localMetadata remote.name) = false ∨
      getFilesToDownload remote (localMetadata remote.name) = []) :
    analyzeUpdates response localMetadata = [] := by
  refine List.eq_nil_iff_forall_not_mem.2 fun plan hplan => ?_
  obtain ⟨remote, hremote, -, hahead, hfiles⟩ := mem_analyzeUpdates.1 hplan
  obtain hnot | hnone := h remote hremote
  · rw [hnot] at hahead
    cases hahead
  · exact hfiles hnone

theorem needsUpdate_createLocalMetadata (now : Int) (tableName : String)
    (info : DataSourceTableInfo) :
    needsUpdate info (some (createLocalMetadata now tableName info)) = false := by
  simp [needsUpdate, createLocalMetadata]

end

end Zentra.FileSync
