import Mathlib.Data.List.FinRange
import DuckGlue.Planning.FileSystem
import DuckGlue.Planning.HiveScanInfo

/-! # The lazily listed files of a Hive table

A list plans its listings once: one of the table root for the partitions below it,
or one for each partition. Every listing adds the data files it found, each to the
partition of the deepest registered location that holds it. The lists of a scan and
its copies share the partition every file was attributed to.
-/

namespace DuckGlue

open StringUtil

/-- What the lists of one scan look at: the partitions Glue registers for the table,
the files, and the settings that decide how they are listed. -/
structure HiveListing where
  scan : HiveScanInfo
  /-- `Partitions()`, never replaced once loaded. -/
  partitions : List GluePartitionInfo
  fs : FileSystem
  db : DuckDB
  /-- `NumberOfThreads` -/
  threads : Nat
  /-- `hive_partition_listing_threshold`, when set. -/
  threshold : Option Nat := none

/-- An index into the registered partitions. -/
abbrev HiveListing.Index (env : HiveListing) := Fin env.partitions.length

instance HiveListing.lawfulIndex (env : HiveListing) : LawfulBEq env.Index := inferInstance

/-- `file_partitions`: the partition each listed file belongs to. -/
abbrev FilePartitions (env : HiveListing) := AList (fun _ : Text => env.Index)

/-- A listing still to do: the table root, or a batch of partitions. -/
structure ListingJob (env : HiveListing) where
  root : Bool
  partitions : List env.Index
  deriving DecidableEq

/-- The files of a table, listed job after job. -/
structure HiveMultiFileList (env : HiveListing) where
  /-- Absent for every partition of the table. -/
  partitionIndexes : Option (List env.Index) := none
  planned : Bool := false
  listingJobs : List (ListingJob env) := []
  nextJob : Nat := 0
  /-- The paths in `expandedFiles`. -/
  listedFiles : List Text := []
  expandedFiles : List OpenFileInfo := []
  deriving DecidableEq

namespace HiveListing

variable (env : HiveListing)

def partition (index : env.Index) : GluePartitionInfo := env.partitions[index]

/-- The location of a registered partition, compared. -/
def locationOf (index : env.Index) : Text := comparableLocation (env.partition index).location

/-- `partition_by_location`: the first partition registered at a location. -/
def partitionByLocation (location : Text) : Option env.Index :=
  if location = [] then none
  else (List.finRange env.partitions.length).find? fun index => env.locationOf index = location

/-- The partitions registered at the location of `index`, in their order. -/
def sharing (index : env.Index) : List env.Index :=
  (List.finRange env.partitions.length).filter fun other => env.locationOf other = env.locationOf index

/-- `shared_locations`: for the first of several partitions at one location, all of
them. -/
def sharedLocations (owner : env.Index) : Option (List env.Index) :=
  if env.partitionByLocation (env.locationOf owner) = some owner ∧ 1 < (env.sharing owner).length then
    some (env.sharing owner)
  else none

/-- What a shared location with data files is refused with; Glue returns partitions
in no fixed order, so they are named in the order of their values. -/
def sharedLocation (owner : env.Index) (sharing : List env.Index) : Exception :=
  let named := sharing.insertionSort fun a b => (env.partition a).values ≤ (env.partition b).values
  let values (position : Nat) := join ((named[position]?.map fun index => (env.partition index).values).getD []) ", "
  .notImplemented
    ("Partitions [" ++ values 0 ++ "] and [" ++ values 1 ++ "] of Hive table '" ++ env.scan.describe ++
      "' are registered at the same location '" ++ (env.partition owner).location ++
      "', which holds data files DuckDB can not read: register each partition at its own location")

/-- `ThrowIfLocationShared` -/
def throwIfLocationShared (owner : env.Index) (reading : List env.Index) : Except Exception Unit :=
  match env.sharedLocations owner with
  | none => .ok ()
  | some sharing =>
      if sharing.any (· ∈ reading) then .error (env.sharedLocation owner sharing) else .ok ()

/-- `OwningPartition`: the partition of the deepest registered location containing
the file, searching no shorter than `minDirectorySize`. -/
def owningPartition (filePath : Text) (minDirectorySize : Nat) : Option env.Index :=
  Segments.deepest '/' env.partitionByLocation minDirectorySize (comparableLocation filePath)

/-- `GetPartitionIndexOfFile` -/
def getPartitionIndexOfFile (filePartitions : FilePartitions env) (path : Text) : Except Exception env.Index :=
  match filePartitions.lookup path with
  | some index => .ok index
  | none => .error (.internal ("Hive scan of '" ++ env.scan.databaseName ++ "." ++ env.scan.tableName ++
      "': data file '" ++ path ++ "' does not belong to any Glue partition"))

/-- The refusal of a partition that does not have one value for each key. -/
def checkValueCount (index : env.Index) : Except Exception Unit :=
  let partition := env.partition index
  if partition.values.length ≠ env.scan.partitionKeys.length then
    .error (.invalidInput
      ("Partition [" ++ join partition.values ", " ++ "] of Hive table '" ++ env.scan.describe ++ "' has " ++
        toString partition.values.length ++ " values but the table has " ++
        toString env.scan.partitionKeys.length ++ " partition keys"))
  else .ok ()

/-- What one listed file comes to: an error, nothing, or a file of a partition. -/
abbrev FileStep := Except Exception (Option (OpenFileInfo × env.Index))

/-- A file `ListPartitions` found below the location of a partition. -/
def partitionStep (reading : List env.Index) (index : env.Index) (file : OpenFileInfo) : env.FileStep :=
  match env.owningPartition file.path (env.locationOf index).length with
  | some owner =>
      if owner ≠ index then do
        -- a file of another partition, registered at a location nested inside this one
        env.throwIfLocationShared owner reading
        return none
      else do
        env.throwIfLocationShared index reading
        return some (file, index)
  | none => do
      env.throwIfLocationShared index reading
      return some (file, index)

/-- The files `ListPartitions` goes through, in its order. -/
def partitionSteps (indexes : List env.Index) : List env.FileStep :=
  indexes.flatMap fun index =>
    (env.fs.listDataFiles (env.partition index).location).map (env.partitionStep indexes index)

/-- A file `ListRoot` found below the table root. -/
def rootStep (reading : List env.Index) (file : OpenFileInfo) : env.FileStep :=
  let root := rtrim env.scan.rootLocation '/'
  if !isDataFile file (root ++ ['/']) then .ok none
  else match env.owningPartition file.path ((comparableLocation root).length + 1) with
    | none => .ok none
    | some owner => do
        env.throwIfLocationShared owner reading
        return if owner ∈ reading then some (file, owner) else none

def rootSteps (indexes : List env.Index) : List env.FileStep :=
  (env.fs.list (rtrim env.scan.rootLocation '/')).map (env.rootStep indexes)

end HiveListing

namespace HiveMultiFileList

variable {env : HiveListing}

/-- `PartitionIndexes` -/
def indexes (list : HiveMultiFileList env) : List env.Index :=
  list.partitionIndexes.getD (List.finRange env.partitions.length)

/-- `AddFile`: a listed file of the partition, unless this list has it already. -/
def addFile (file : OpenFileInfo) (index : env.Index) (shared : FilePartitions env)
    (list : HiveMultiFileList env) : FilePartitions env × HiveMultiFileList env :=
  if file.path ∈ list.listedFiles then (shared, list)
  else (shared.insert file.path index,
    { list with
      listedFiles := file.path :: list.listedFiles
      expandedFiles := list.expandedFiles ++ [file] })

/-- The loop over the listed files; what is added before an error stays. -/
def addFiles : List env.FileStep → FilePartitions env → HiveMultiFileList env →
    Option Exception × FilePartitions env × HiveMultiFileList env
  | [], shared, list => (none, shared, list)
  | .error exception :: _, shared, list => (some exception, shared, list)
  | .ok none :: steps, shared, list => addFiles steps shared list
  | .ok (some (file, index)) :: steps, shared, list =>
      let (shared, list) := addFile file index shared list
      addFiles steps shared list

/-- `ListPartitions` -/
def listPartitions (indexes : List env.Index) (shared : FilePartitions env) (list : HiveMultiFileList env) :
    Option Exception × FilePartitions env × HiveMultiFileList env :=
  match indexes.forM env.checkValueCount with
  | .error exception => (some exception, shared, list)
  | .ok () => addFiles (env.partitionSteps indexes) shared list

/-- `ListRoot` -/
def listRoot (indexes : List env.Index) (shared : FilePartitions env) (list : HiveMultiFileList env) :
    Option Exception × FilePartitions env × HiveMultiFileList env :=
  if rtrim env.scan.rootLocation '/' = [] then
    (some (.invalidInput ("Hive table '" ++ env.scan.describe ++ "' has no location")), shared, list)
  else match indexes.forM env.checkValueCount with
    | .error exception => (some exception, shared, list)
    | .ok () => addFiles (env.rootSteps indexes) shared list

/-- `below_root`: a partition the root's listing covers. -/
def isBelowRoot (root location : Text) : Bool :=
  let emptySegment := contains (location.drop (root.length + 1)) "//"
  root ≠ [] && location.length > root.length + 1 && startsWith location (root ++ ['/']) && !emptySegment

/-- Slices of `together`, the last one shorter. -/
def batches {α : Type} (together : Nat) (separately : List α) : List (List α) :=
  (List.range ((separately.length + together - 1) / together)).map fun start =>
    (separately.drop (start * together)).take together

/-- `PartitionsListedTogether` -/
def partitionsListedTogether (env : HiveListing) : Nat := max 1 env.threads

/-- `S3_KEYS_PER_LIST_PAGE` -/
def s3KeysPerListPage : Nat := 1000

/-- `ROOT_REQUESTS_SAVED` -/
def rootRequestsSaved : Nat := 10

/-- Whether listing the root once saves requests over listing its partitions read. -/
def listsRoot (env : HiveListing) (belowRoot : List env.Index) : Bool :=
  let root := comparableLocation env.scan.rootLocation
  let partitionsBelowRoot := env.partitions.countP fun partition =>
    let location := rtrim partition.location '/'
    root ≠ [] && location.length > root.length + 1 && startsWith location (root ++ ['/'])
  let together := partitionsListedTogether env
  let rootPages := (partitionsBelowRoot + s3KeysPerListPage - 1) / s3KeysPerListPage
  let partitionRounds := (belowRoot.length + together - 1) / together
  match env.threshold with
  | some threshold => belowRoot.length ≥ threshold
  | none => rootPages < partitionRounds ||
      (rootPages = partitionRounds && belowRoot.length ≥ rootRequestsSaved * rootPages)

/-- The listings of a partitioned table. -/
def plan (env : HiveListing) (indexes : List env.Index) : List (ListingJob env) :=
  let root := comparableLocation env.scan.rootLocation
  let belowRoot := indexes.filter fun index => isBelowRoot root (env.locationOf index)
  let elsewhere := indexes.filter fun index => !isBelowRoot root (env.locationOf index)
  let together := partitionsListedTogether env
  if belowRoot ≠ [] ∧ listsRoot env belowRoot = true then
    ⟨true, belowRoot⟩ :: (batches together elsewhere).map (⟨false, ·⟩)
  else (batches together (belowRoot ++ elsewhere)).map (⟨false, ·⟩)

/-- `PlanListings` -/
def planListings (list : HiveMultiFileList env) : HiveMultiFileList env :=
  if list.planned then list
  else if env.scan.partitionKeys = [] then
    { list with planned := true, listingJobs := list.listingJobs ++ [⟨true, []⟩] }
  else { list with planned := true, listingJobs := list.listingJobs ++ plan env list.indexes }

/-- The listing of an unpartitioned table. -/
def listTable (shared : FilePartitions env) (list : HiveMultiFileList env) :
    Option Exception × FilePartitions env × HiveMultiFileList env :=
  if env.scan.rootLocation = [] then
    (some (.invalidInput ("Hive table '" ++ env.scan.describe ++ "' has no location")), shared, list)
  else
    (none, shared, { list with
      expandedFiles := list.expandedFiles ++ env.fs.listDataFiles env.scan.rootLocation })

/-- One listing: of the table, of its root or of a batch of its partitions. -/
def runJob (job : ListingJob env) (shared : FilePartitions env) (list : HiveMultiFileList env) :
    Option Exception × FilePartitions env × HiveMultiFileList env :=
  if env.scan.partitionKeys = [] then listTable shared list
  else match job.partitions.forM fun index => env.scan.verifyConsistentPartitionSerDe env.db (env.partition index) with
    | .error exception => (some exception, shared, list)
    | .ok () => if job.root then listRoot job.partitions shared list else listPartitions job.partitions shared list

/-- `ExpandNextPath` runs one listing; a job that throws is not run again. -/
def expandNextPath (shared : FilePartitions env) (list : HiveMultiFileList env) :
    Except Exception Bool × FilePartitions env × HiveMultiFileList env :=
  let list := list.planListings
  match list.listingJobs[list.nextJob]? with
  | none => (.ok false, shared, list)
  | some job =>
      match runJob job shared { list with nextJob := list.nextJob + 1 } with
      | (some exception, shared, list) => (.error exception, shared, list)
      | (none, shared, list) => (.ok true, shared, list)

/-- `ExpandNextPath` again and again, until nothing is left or a listing throws. -/
def expandAll : Nat → FilePartitions env → HiveMultiFileList env →
    Option Exception × FilePartitions env × HiveMultiFileList env
  | 0, shared, list => (none, shared, list)
  | calls + 1, shared, list =>
      match list.expandNextPath shared with
      | (.error exception, shared, list) => (some exception, shared, list)
      | (.ok false, shared, list) => (none, shared, list)
      | (.ok true, shared, list) => expandAll calls shared list

/-- A full expansion: one call for each job, and one that finds none left. -/
def expandFully (shared : FilePartitions env) (list : HiveMultiFileList env) :
    Option Exception × FilePartitions env × HiveMultiFileList env :=
  expandAll (list.planListings.listingJobs.length + 1) shared list

/-- `Copy` -/
def copy (list : HiveMultiFileList env) : HiveMultiFileList env :=
  { partitionIndexes := list.partitionIndexes }

/-- The list a pushdown leaves: of the partitions it keeps. -/
def prune (keep : env.Index → Bool) (list : HiveMultiFileList env) : HiveMultiFileList env :=
  { partitionIndexes := some (list.indexes.filter keep) }

end HiveMultiFileList

end DuckGlue
