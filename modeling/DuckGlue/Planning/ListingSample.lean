import DuckGlue.Planning.HiveMultiFileList

/-! # The files listed to measure a table

The sample is what the first listing of a list finds: the first partition's files,
or the partitions the root's listing holds completely in the pages fetched so far.
It attributes files as the listings do, without adding them to the list.
-/

namespace DuckGlue

open StringUtil

/-- What `SampleRootPartitions` keeps while it goes through the root's listing. -/
structure SampleState (env : HiveListing) where
  /-- `scan_type` is `ALWAYS_FETCH` rather than `FETCH_IF_AVAILABLE`. -/
  alwaysFetch : Bool := false
  sampled : Option env.Index := none
  sampledPrefix : Text := []
  inSampled : Bool := false
  listedAll : Bool := false
  lastPartition : Option env.Index := none
  lastPartitionStart : Nat := 0
  /-- `files` and `file_partitions`, which grow together. -/
  files : List (OpenFileInfo × env.Index) := []

namespace HiveMultiFileList

variable {env : HiveListing}

/-- A data file of a partition goes into the sample; the first partition read that is
found is the one to sample. -/
def sampleOwned (reading : List env.Index) (file : OpenFileInfo) (owner : env.Index) (state : SampleState env) :
    SampleState env :=
  let state :=
    if some owner ≠ state.lastPartition then
      { state with lastPartition := some owner, lastPartitionStart := state.files.length }
    else state
  let state :=
    if state.sampled = none ∧ owner ∈ reading then
      { state with sampled := some owner, sampledPrefix := env.locationOf owner ++ ['/'], inSampled := true }
    else state
  { state with files := state.files ++ [(file, owner)] }

/-- One file of the root's listing, and whether to go on. -/
def sampleFile (reading : List env.Index) (file : OpenFileInfo) (state : SampleState env) : SampleState env × Bool :=
  let root := rtrim env.scan.rootLocation '/'
  if !isDataFile file (root ++ ['/']) then (state, true)
  else
    let inSampled := state.sampled.isSome && startsWith (comparableLocation file.path) state.sampledPrefix
    let state := { state with inSampled }
    -- pages come in key order, so the sampled partition's files are all seen
    if state.alwaysFetch && state.sampled.isSome && !inSampled then (state, false)
    else match env.owningPartition file.path ((comparableLocation root).length + 1) with
      | none => (state, true)
      | some owner => (sampleOwned reading file owner state, true)

/-- The loop over the root's listing, of which `available` files are fetched. More
are fetched only to find a partition the scan reads or while it may continue. -/
def sampleLoop (reading : List env.Index) : List OpenFileInfo → Nat → SampleState env → SampleState env
  | [], _, state =>
      if !state.alwaysFetch && state.sampled.isSome && !state.inSampled then state
      else { state with alwaysFetch := true, listedAll := true }
  | file :: rest, available, state =>
      if !state.alwaysFetch && available = 0 && state.sampled.isSome && !state.inSampled then state
      else
        let (state, more) := sampleFile reading file { state with alwaysFetch := state.alwaysFetch || available = 0 }
        if more then sampleLoop reading rest (available - 1) state else state

/-- Attribute the files of a sample. -/
def attributeFiles (files : List (OpenFileInfo × env.Index)) (shared : FilePartitions env) : FilePartitions env :=
  files.foldl (fun shared found => shared.insert found.1.path found.2) shared

/-- The files `SampleRootPartitions` keeps; the pages fetched may end inside the last
partition. -/
def sampledFiles (reading : List env.Index) (available : Nat) : List (OpenFileInfo × env.Index) :=
  let state := sampleLoop reading (env.fs.list (rtrim env.scan.rootLocation '/')) available {}
  if !state.listedAll && state.lastPartition.isSome && state.lastPartition ≠ state.sampled then
    state.files.take state.lastPartitionStart
  else state.files

/-- The files of one partition, as `ListPartitions` keeps them. -/
def sampledPartition (index : env.Index) : List (OpenFileInfo × env.Index) :=
  ((env.fs.listDataFiles (env.partition index).location).filter fun file =>
    match env.owningPartition file.path (env.locationOf index).length with
    | some owner => owner = index
    | none => true).map (·, index)

/-- `ListSampleDirectory` -/
def listSampleDirectory (available : Nat) (shared : FilePartitions env) (list : HiveMultiFileList env) :
    List OpenFileInfo × FilePartitions env × HiveMultiFileList env :=
  let list := list.planListings
  if env.scan.partitionKeys = [] then (env.fs.listDataFiles env.scan.rootLocation, shared, list)
  else match list.listingJobs.head? with
    | none => ([], shared, list)
    | some ⟨true, partitions⟩ =>
        let files := sampledFiles partitions available
        (files.map (·.1), attributeFiles files shared, list)
    | some ⟨false, []⟩ => ([], shared, list)
    | some ⟨false, index :: _⟩ =>
        let files := sampledPartition index
        (files.map (·.1), attributeFiles files shared, list)

end HiveMultiFileList

end DuckGlue
