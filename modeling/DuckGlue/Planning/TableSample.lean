import DuckGlue.Lib.Tally
import DuckGlue.Planning.Attribution

/-! # The sample of a table, and the cardinality of its scans

One listing measures a table for every scan of it in a query: the files and bytes of each
partition listed, and the rows of one file. A scan counts the partitions it reads with
these, by their indexes.
-/

namespace DuckGlue

open HiveListing HiveMultiFileList

structure HivePartitionSize where
  files : ℕ := 0
  bytes : ℕ := 0
  deriving Repr, DecidableEq

/-- The measurement of the files listed for a table. -/
structure HiveTableSample where
  listed : Bool := false
  files : ℕ := 0
  bytes : Option ℕ := none
  minFileSize : ℕ := 0
  maxFileSize : ℕ := 0
  fileRows : Option ℕ := none
  fileBytes : Option ℕ := none
  /-- The files and bytes of each partition listed. -/
  partitionSizes : AList (fun _ : ℕ => HivePartitionSize) := ∅

/-- A list of a scan, as it is asked for the cardinality. -/
structure AskingScan where
  env : HiveListing
  list : HiveMultiFileList env
  filePartitions : FilePartitions env
  /-- How many files of the root's listing were fetched so far. -/
  available : ℕ
  owned : env.scan.partitionKeys ≠ [] → Owned filePartitions

namespace AskingScan

variable (scan : AskingScan)

/-- A data file listed for the sample, and its partition where the table has any. -/
abbrev SampleFile := OpenFileInfo × Option scan.env.Index

/-- The partitions the scan's reader can not open. -/
def unreadable : Except Exception (List scan.env.Index) := do
  let mismatches ← Fallible.tabulate (fun index =>
    scan.env.scan.partitionStorageMismatch scan.env.db (scan.env.partition index)) (List.finRange _)
  return (mismatches.filter (·.2.isSome)).map (·.1)

/-- The files `ListSampleDirectory` lists, with their partitions. -/
def sampleFiles : Except Exception (List scan.SampleFile) :=
  let (listed, filePartitions, _) := scan.list.listSampleDirectory scan.available scan.filePartitions
  if scan.env.scan.partitionKeys = [] then .ok (listed.map (·, none))
  else listed.mapM fun file => do
    return (file, some (← scan.env.getPartitionIndexOfFile filePartitions file.path))

/-- The file of the largest size listed, the first of several. -/
def largest (files : List scan.SampleFile) : Option scan.SampleFile :=
  files.foldl (fun largest file =>
    match file.1.size, largest.bind (·.1.size) with
    | none, _ => largest
    | some _, none => some file
    | some size, some measuredSize => if size > measuredSize then some file else largest) none

/-- The file to measure: of the partitions read if there is one. -/
def measured (unreadable : List scan.env.Index) (files : List scan.SampleFile) : Option scan.SampleFile :=
  let readable (file : scan.SampleFile) := file.2.all (· ∉ unreadable)
  let measurable (file : scan.SampleFile) := readable file && file.2.all (· ∈ scan.list.indexes)
  (scan.largest (files.filter measurable)).or ((files.find? measurable).or (files.find? readable))

/-- What a file without a size counts as: an average one. -/
def averageFileSize (files : List scan.SampleFile) : ℕ :=
  let sizes := files.filterMap (·.1.size)
  sizes.sum / sizes.length

/-- One more file of a partition. -/
def addFile (averageFileSize : ℕ) (partition : HivePartitionSize) (file : OpenFileInfo) : HivePartitionSize :=
  { files := partition.files + 1, bytes := partition.bytes + file.size.getD averageFileSize }

/-- The files of partitions, by the index of the partition. -/
def filesOfPartitions (files : List scan.SampleFile) : List (ℕ × OpenFileInfo) :=
  files.filterMap fun file => file.2.map fun index => (index.val, file.1)

/-- The sample of the files listed, before one is measured. -/
def sizesOf (files : List scan.SampleFile) : HiveTableSample :=
  let sizes := files.filterMap (·.1.size)
  let averageFileSize := scan.averageFileSize files
  { listed := true
    files := files.length
    bytes := if sizes = [] then none else some (sizes.sum + averageFileSize * (files.length - sizes.length))
    minFileSize := sizes.min?.getD 0
    maxFileSize := sizes.foldl max 0
    partitionSizes := (scan.filesOfPartitions files).foldl (Tally.count (addFile averageFileSize) {}) ∅ }

/-- `MeasureTable`, which catches what listing and measuring throw; `rowsInFile` opens the
file for the scan. -/
def measureTable (rowsInFile : HiveScanInfo → OpenFileInfo → Except Exception (Option ℕ)) : HiveTableSample :=
  -- no bounded way to count avro rows
  if scan.env.scan.fileFormat = .avro then {}
  else
    match scan.sampleFiles, if scan.env.scan.partitionKeys = [] then .ok [] else scan.unreadable with
    | .ok files, .ok unreadable =>
        let sample := scan.sizesOf files
        match scan.measured unreadable files with
        | none => sample
        | some file =>
            let sample := { sample with fileBytes := file.1.size }
            match rowsInFile scan.env.scan file.1 with
            | .error _ => sample
            | .ok rows => { sample with fileRows := rows }
    | _, _ => { listed := true, files := (scan.list.listSampleDirectory scan.available scan.filePartitions).1.length }

end AskingScan

/-- `double`, as far as the estimate uses it. -/
structure DoubleArithmetic (D : Type) where
  ofIndex : ℕ → D
  /-- `static_cast<idx_t>` -/
  toIndex : D → ℕ
  half : D
  add : D → D → D
  mul : D → D → D
  div : D → D → D
  max : D → D → D
  isPositive : D → Bool

/-- The files and bytes a scan reads, and the rows its bytes imply. -/
structure ReadSize (D : Type) where
  files : D
  bytes : D
  bytesRows : ℕ

namespace HiveTableSample

variable {D : Type} (double : DoubleArithmetic D) (sample : HiveTableSample)

/-- `ESTIMATED_BYTES_PER_ROW` -/
def estimatedBytesPerRow : ℕ := 100

/-- One partition read: with its own size if the listing saw it, with the average otherwise. -/
def countPartition (averageFiles averageBytes : D) (counted : ReadSize D) : Option HivePartitionSize → ReadSize D
  | none => {
      files := double.add counted.files averageFiles
      bytes := double.add counted.bytes averageBytes
      bytesRows := counted.bytesRows + double.toIndex averageBytes / estimatedBytesPerRow }
  | some size => {
      files := double.add counted.files (double.ofIndex size.files)
      bytes := double.add counted.bytes (double.ofIndex size.bytes)
      bytesRows := counted.bytesRows + size.bytes / estimatedBytesPerRow }

/-- What the scan reads, of partitions of these sizes. -/
def readSize (partitioned : Bool) (sizes : List (Option HivePartitionSize)) : ReadSize D :=
  let files := double.ofIndex sample.files
  let bytes := match sample.bytes with
    | some bytes => double.ofIndex bytes
    | none => double.ofIndex 0
  if partitioned && sample.partitionSizes.entries ≠ [] then
    let seen := double.ofIndex sample.partitionSizes.entries.length
    sizes.foldl (countPartition double (double.div files seen) (double.div bytes seen))
      ⟨double.ofIndex 0, double.ofIndex 0, 0⟩
  else
    let partitions := if partitioned then sizes.length else 1
    ⟨double.mul files (double.ofIndex partitions), double.mul bytes (double.ofIndex partitions), 0⟩

/-- The rows of a scan of partitions of these sizes, from the rows of the file measured. -/
def estimate (partitioned : Bool) (sizes : List (Option HivePartitionSize)) (fileRows : ℕ) : ℕ :=
  let read := sample.readSize double partitioned sizes
  -- once the files differ by more than a factor of two, only bytes carry the difference
  let rows := match sample.bytes, sample.fileBytes with
    | some _, some fileBytes =>
        if fileBytes > 0 ∧ sample.maxFileSize > sample.minFileSize * 2 then
          double.mul (double.div read.bytes (double.ofIndex fileBytes)) (double.ofIndex fileRows)
        else double.mul (double.ofIndex fileRows) read.files
    | _, _ => double.mul (double.ofIndex fileRows) read.files
  let rows :=
    if (if partitioned then sizes.length else 1) > 1 ∧ sample.bytes.isSome then
      double.max rows (double.ofIndex read.bytesRows)
    else rows
  max (double.toIndex (double.add rows double.half)) (if double.isPositive read.files then 1 else 0)

end HiveTableSample

namespace AskingScan

variable {D : Type} (double : DoubleArithmetic D) (scan : AskingScan)

/-- The size a sample has for a partition of the scan. -/
def countedSize (sample : HiveTableSample) (index : scan.env.Index) : Option HivePartitionSize :=
  sample.partitionSizes.lookup index.val

/-- Whether the scan asks for a sample: it reads anything. -/
def asks : Bool := scan.env.scan.partitionKeys = [] || scan.list.indexes ≠ []

/-- `HiveScanCardinality` from the sample, by the format's own estimate where nothing was
measured. -/
def hiveScanCardinality (unsampledCardinality : Option ℕ) (sample : HiveTableSample) : Option ℕ :=
  match sample.fileRows with
  | none =>
      -- the only directory of the table holds no data file
      if sample.listed && sample.files = 0 && scan.env.scan.partitionKeys = [] then some 0
      else unsampledCardinality
  | some fileRows =>
      some (sample.estimate double (scan.env.scan.partitionKeys ≠ []) (scan.list.indexes.map (scan.countedSize sample))
        fileRows)

end AskingScan

/-- A partition, as two scans know it. -/
def SamePartition (a b : GluePartitionInfo) : Prop := a.values = b.values ∧ a.location = b.location

instance (a b : GluePartitionInfo) : Decidable (SamePartition a b) := inferInstanceAs (Decidable (_ ∧ _))

namespace AskingScan

variable (scan : AskingScan)

/-- The files a sample has the sizes of. -/
def sizedFiles : List scan.SampleFile :=
  if scan.env.scan.fileFormat = .avro then []
  else match scan.sampleFiles, if scan.env.scan.partitionKeys = [] then .ok [] else scan.unreadable with
    | .ok files, .ok _ => files
    | _, _ => []

/-- A sample of the scan has files of the partition. -/
def Lists (index : scan.env.Index) : Prop := ∃ file, (file, some index) ∈ scan.sizedFiles

/-- What the files listed of a partition add up to. -/
def sizeOf (partition : GluePartitionInfo) : Option HivePartitionSize :=
  Tally.total (addFile (scan.averageFileSize scan.sizedFiles)) {}
    ((scan.sizedFiles.filter fun file => file.2.any fun index => SamePartition (scan.env.partition index) partition).map
      (·.1))

section SampleSizes

variable {scan} {rowsInFile : HiveScanInfo → OpenFileInfo → Except Exception (Option ℕ)} {index other : scan.env.Index}
  {partition : GluePartitionInfo} {files : List scan.SampleFile}

theorem measureTable_partitionSizes : (scan.measureTable rowsInFile).partitionSizes =
    (scan.filesOfPartitions scan.sizedFiles).foldl
      (Tally.count (addFile (scan.averageFileSize scan.sizedFiles)) {}) ∅ := by
  unfold measureTable sizedFiles
  by_cases avro : scan.env.scan.fileFormat = .avro
  · rw [if_pos avro, if_pos avro]
    rfl
  · rw [if_neg avro, if_neg avro]
    cases scan.sampleFiles with
    | error _ => rfl
    | ok files =>
        cases (if scan.env.scan.partitionKeys = [] then .ok [] else scan.unreadable :
            Except Exception (List scan.env.Index)) with
        | error _ => rfl
        | ok unreadable =>
            dsimp only
            cases scan.measured unreadable files with
            | none => rfl
            | some file =>
                dsimp only
                cases rowsInFile scan.env.scan file.1 <;> rfl

theorem elements_filesOfPartitions {position : ℕ} : Tally.elements (scan.filesOfPartitions files) position =
    (files.filter fun file => file.2.any fun index => index.val = position).map (·.1) := by
  unfold Tally.elements filesOfPartitions
  induction files with
  | nil => rfl
  | cons file files ih =>
      obtain ⟨file, _ | owner⟩ := file
      · simpa using ih
      · by_cases here : owner.val = position <;> simpa [here] using ih

/-- The size a sample has for an index. -/
theorem lookup_partitionSizes {position : ℕ} : (scan.measureTable rowsInFile).partitionSizes.lookup position =
    Tally.total (addFile (scan.averageFileSize scan.sizedFiles)) {}
      ((scan.sizedFiles.filter fun file => file.2.any fun index => index.val = position).map (·.1)) := by
  rw [measureTable_partitionSizes, Tally.lookup_tally, elements_filesOfPartitions]

theorem lists_of_lookup {position : ℕ} {size : HivePartitionSize}
    (sized : (scan.measureTable rowsInFile).partitionSizes.lookup position = some size) :
    ∃ index : scan.env.Index, index.val = position ∧ scan.Lists index := by
  have some_ : (scan.sizedFiles.filter fun file => file.2.any fun index => index.val = position).map (·.1) ≠ [] := by
    intro empty
    rw [lookup_partitionSizes, Tally.total_eq_none.mpr empty] at sized
    cases sized
  obtain ⟨_, member⟩ := List.exists_mem_of_ne_nil _ some_
  obtain ⟨⟨file, owner⟩, inside, -⟩ := List.mem_map.mp member
  obtain ⟨listed, here⟩ := List.mem_filter.mp inside
  cases owner with
  | none => cases here
  | some index => exact ⟨index, of_decide_eq_true here, file, listed⟩

theorem lookup_of_lists (lists : scan.Lists index) :
    ∃ size, (scan.measureTable rowsInFile).partitionSizes.lookup index.val = some size := by
  obtain ⟨file, listed⟩ := lists
  apply Option.ne_none_iff_exists'.mp
  rw [lookup_partitionSizes]
  intro missing
  have empty := List.filter_eq_nil_iff.mp (List.map_eq_nil_iff.mp (Tally.total_eq_none.mp missing))
  exact empty _ listed (decide_eq_true rfl)

theorem sizeOf_of_lists (lists : scan.Lists index) (same : SamePartition (scan.env.partition index) partition) :
    ∃ size, scan.sizeOf partition = some size := by
  obtain ⟨file, listed⟩ := lists
  apply Option.ne_none_iff_exists'.mp
  intro missing
  have empty := List.filter_eq_nil_iff.mp (List.map_eq_nil_iff.mp (Tally.total_eq_none.mp missing))
  exact empty _ listed (decide_eq_true same)

theorem sizedFiles_sampled {file : scan.SampleFile} (sized : file ∈ scan.sizedFiles) :
    ∃ files, scan.sampleFiles = .ok files ∧ file ∈ files := by
  unfold sizedFiles at sized
  split at sized
  · cases sized
  · split at sized
    · rename_i files _ sampled _
      exact ⟨files, sampled, sized⟩
    · cases sized

/-- A sample has files only of the first partition of a location. -/
theorem isFirst_of_lists (lists : scan.Lists index) : scan.env.IsFirst index := by
  obtain ⟨file, listed⟩ := lists
  obtain ⟨files, sampled, member⟩ := sizedFiles_sampled listed
  unfold sampleFiles at sampled
  dsimp only at sampled
  split at sampled
  · cases sampled
    obtain ⟨_, -, wrong⟩ := List.mem_map.mp member
    cases wrong
  · rename_i partitioned
    obtain ⟨asked, _, attributed⟩ := Fallible.mem_of_mapM sampled member
    obtain ⟨owner, known, same⟩ := Fallible.bind_eq_ok.mp attributed
    cases same
    unfold getPartitionIndexOfFile at known
    split at known
    · rename_i found
      cases known
      obtain ⟨owned, -, -⟩ := listSampleDirectory_kept partitioned scan.list scan.available (scan.owned partitioned)
      exact (owningPartition_eq_some.mp (owned _ _ found)).2.1
    · cases known

/-- Partitions a sample lists are told apart by what scans know of them. -/
theorem eq_of_lists (here : scan.Lists index) (there : scan.Lists other)
    (same : SamePartition (scan.env.partition index) (scan.env.partition other)) : index = other := by
  have location : scan.env.locationOf index = scan.env.locationOf other := by
    unfold locationOf
    rw [same.2]
  rcases lt_trichotomy index other with less | equal | less
  · exact absurd location (isFirst_of_lists there index less)
  · exact equal
  · exact absurd location.symm (isFirst_of_lists here other less)

end SampleSizes

end AskingScan

end DuckGlue
