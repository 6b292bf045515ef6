import DuckGlue.Lib.InTurn
import DuckGlue.Planning.PartitionStatistics
import DuckGlue.Planning.SharedLocations

/-! # The partition values a scan reads

Glue may register a partition with fewer or more values than the table has keys. A listing
refuses such a partition; pruning, join filters and statistics look its values up before.
-/

namespace DuckGlue

open StringUtil Fallible HiveMultiFileList

/-- A value looked up: of a partition, by the index of a key. -/
abbrev ValueRead (env : HiveListing) := env.Index × ℕ

namespace HiveListing

variable {Op Value Filter : Type} (executor : ExpressionExecutor Op Value Filter) (env : HiveListing)

/-- The partition has a value there. -/
def InRange (read : ValueRead env) : Prop := read.2 < (env.partition read.1).values.length

instance (read : ValueRead env) : Decidable (env.InRange read) := inferInstanceAs (Decidable (_ < _))

section ComplexFilter

variable (tableIndex : ℕ) (projections : List PartitionKeyProjection) (index : env.Index)

/-- The key a column reference is replaced by the value of. -/
def replacedKey (ref : ColumnRef) : Option ℕ :=
  if ref.tableIndex ≠ tableIndex then none
  else (projections.find? fun projection => projection.projectedColumnIndex = ref.columnIndex).map (·.partitionKeyIndex)

/-- The reference has become a constant, or stays. -/
def isReplaced (ref : ColumnRef) : Bool :=
  (env.partitionConstant executor tableIndex projections (env.partition index) ref).isOk

/-- The filter does not rule the partition out. -/
def keepsPartition (filter : Expression ColumnRef Op Value) : Bool :=
  match env.decideFilter executor tableIndex projections (env.partition index) filter with
  | .ok none => true
  | .ok (some holds) => holds
  | .error _ => false

/-- The values `ReplacePartitionColumnRefs` looks up. -/
def filterReads (filter : Expression ColumnRef Op Value) : List (ValueRead env) :=
  inTurn (fun ref => (replacedKey tableIndex projections ref).toList.map (index, ·))
    (env.isReplaced executor tableIndex projections index) filter.columns

/-- The partition is kept or ruled out. -/
def isJudged (filters : List (Expression ColumnRef Op Value)) : Bool :=
  (env.verdict executor tableIndex projections filters index).isOk

/-- The values `PartitionsToRead` looks up. -/
def complexFilterReads (candidates : List env.Index) (filters : List (Expression ColumnRef Op Value)) :
    List (ValueRead env) :=
  inTurn (fun index => inTurn (env.filterReads executor tableIndex projections index)
    (env.keepsPartition executor tableIndex projections index) filters)
    (env.isJudged executor tableIndex projections · filters) candidates

end ComplexFilter

section DynamicFilter

/-- The filter accepts the value of the partition. -/
def acceptsPartition (index : env.Index) (keyFilter : PartitionKeyFilter Filter) : Bool :=
  match env.keyValue executor (env.partition index) keyFilter.partitionKeyIndex keyFilter.type with
  | .ok value => executor.evaluateWithConstant keyFilter.filter value
  | .error _ => false

/-- The filters are evaluated for the partition. -/
def isTested (keyFilters : List (PartitionKeyFilter Filter)) (index : env.Index) : Bool :=
  (env.passes executor (env.partition index) keyFilters).isOk

/-- The values `DynamicFilterPushdown` looks up. -/
def dynamicFilterReads (candidates : List env.Index) (keyFilters : List (PartitionKeyFilter Filter)) :
    List (ValueRead env) :=
  inTurn (fun index => inTurn (fun keyFilter => [(index, keyFilter.partitionKeyIndex)])
    (env.acceptsPartition executor index) keyFilters) (env.isTested executor keyFilters) candidates

end DynamicFilter

/-- The values `HivePartitionStatistics` looks up, for a key the partition has a value for. -/
def statisticsReads (indexes : List env.Index) (key : StatisticsKey) : List (ValueRead env) :=
  inTurn (fun index => if env.InRange (index, key.keyIndex) then [(index, key.keyIndex)] else [])
    (fun index => (env.keyValue executor (env.partition index) key.keyIndex key.type).isOk) indexes

/-- The values `FinalizeBind` looks up for a file of the partition, at most. -/
def finalizeBindReads (index : env.Index) (localNames : List Text) (virtualColumn : ℕ → Option (Option Value))
    (columnIndexes : List ColumnIndex) : List (ValueRead env) :=
  inTurn (fun column => match env.projectedKey column.1.id with
      | .ok (some keyIndex) => [(index, keyIndex)]
      | _ => [])
    (fun column => (env.constantColumn executor (env.partition index) localNames virtualColumn column).isOk)
    columnIndexes.zipIdx

end HiveListing

/-- What is done with the lists of a scan, at bind, while planning and at the start of the
scan. -/
inductive ScanOperation (env : HiveListing) (Op Value Filter : Type) where
  | complexFilterPushdown (list : ℕ) (info : MultiFilePushdownInfo Op Value)
      (filters : List (Expression ColumnRef Op Value))
  | dynamicFilterPushdown (list : ℕ) (columnIndexes : List ColumnIndex) (filters : List (ℕ × Filter))
  | hivePartitionStatistics (list : ℕ) (input : StatisticsInput)
  | listSampleDirectory (list available : ℕ)
  | expandNextPath (list : ℕ)
  | copy (list : ℕ)
  /-- A file of the list is read. -/
  | finalizeBind (list file : ℕ) (localNames : List Text) (virtualColumn : ℕ → Option (Option Value))
      (columnIndexes : List ColumnIndex)

namespace HiveScanState

variable {Op Value Filter : Type} (executor : ExpressionExecutor Op Value Filter) {env : HiveListing}

/-- The exception something ends with. -/
def thrown {α : Type} : Except Exception α → Option Exception
  | .ok _ => none
  | .error exception => some exception

/-- A list that takes the place of another one in the plan. -/
def replaceList (state : HiveScanState env) (list : Option (HiveMultiFileList env)) : HiveScanState env :=
  { state with lists := state.lists ++ list.toList }

/-- A file of a list. -/
def fileAt (state : HiveScanState env) (position file : ℕ) : Option OpenFileInfo :=
  state.lists[position]?.bind fun list => list.expandedFiles[file]?

/-- `GetPartitionOfFile`; there is none for a file of an unpartitioned table. -/
def getPartitionOfFile (state : HiveScanState env) (path : Text) : Except Exception GluePartitionInfo :=
  if env.scan.partitionKeys = [] then .ok { values := [], location := [] }
  else return env.partition (← env.getPartitionIndexOfFile state.filePartitions path)

/-- One operation: what it throws, and the lists after it. -/
def perform (state : HiveScanState env) : ScanOperation env Op Value Filter → Option Exception × HiveScanState env
  | .complexFilterPushdown position info filters =>
      match state.lists[position]? with
      | none => (none, state)
      | some list =>
          match env.complexFilterPushdown executor info list filters with
          | .error exception => (some exception, state)
          | .ok result => (none, state.replaceList result.files)
  | .dynamicFilterPushdown position columnIndexes filters =>
      match state.lists[position]? with
      | none => (none, state)
      | some list =>
          match env.dynamicFilterPushdown executor columnIndexes list filters with
          | .error exception => (some exception, state)
          | .ok result => (none, state.replaceList result)
  -- a partition it can not read ends it without statistics
  | .hivePartitionStatistics _ _ => (none, state)
  | .listSampleDirectory position available => state.step (.listSampleDirectory position available)
  | .expandNextPath position => state.step (.expandNextPath position)
  | .copy position => state.step (.copy position)
  | .finalizeBind position file localNames virtualColumn columnIndexes =>
      match state.fileAt position file with
      | none => (none, state)
      | some file =>
          (thrown (do
            let partition ← state.getPartitionOfFile file.path
            env.finalizeBind executor partition localNames virtualColumn columnIndexes), state)

/-- The values of partitions an operation looks up. -/
def valueReads (state : HiveScanState env) : ScanOperation env Op Value Filter → List (ValueRead env)
  | .complexFilterPushdown position info filters =>
      match state.lists[position]?, env.partitionKeyProjections info.columnIndexes with
      | some list, .ok projections =>
          if env.scan.partitionKeys = [] then []
          else env.complexFilterReads executor info.tableIndex projections list.indexes filters
      | _, _ => []
  | .dynamicFilterPushdown position columnIndexes filters =>
      match state.lists[position]?, filters.mapM (env.keyFilter columnIndexes) with
      | some list, .ok keyFilters =>
          if env.scan.partitionKeys = [] then []
          else env.dynamicFilterReads executor list.indexes keyFilters.reduceOption
      | _, _ => []
  | .hivePartitionStatistics position input =>
      match state.lists[position]?, env.statisticsKey input with
      | some list, some key => env.statisticsReads executor list.indexes key
      | _, _ => []
  -- these compare how many values a partition has, and name it by all of them
  | .listSampleDirectory _ _ | .expandNextPath _ | .copy _ => []
  | .finalizeBind position file localNames virtualColumn columnIndexes =>
      match (state.fileAt position file).bind fun file => state.filePartitions.lookup file.path with
      | none => []
      | some index => env.finalizeBindReads executor index localNames virtualColumn columnIndexes

/-- A scan from its bind on. -/
def planned (operations : List (ScanOperation env Op Value Filter)) : HiveScanState env :=
  operations.foldl (fun state operation => (state.perform executor operation).2) (start none)

/-- What becomes of the partitions registered with the wrong number of values: no value is
looked up that a partition does not have, and a listing that comes to such a partition ends
with the refusal of one, unless the partitions' storage or the lack of a location ends it. -/
structure ReadsGuarded (state : HiveScanState env) (operation : ScanOperation env Op Value Filter) : Prop where
  inRange : ∀ read ∈ valueReads executor state operation, env.InRange read
  reported : env.scan.partitionKeys ≠ [] → ∀ position list job, operation = .expandNextPath position →
    state.lists[position]? = some list → list.planListings.listingJobs[list.planListings.nextJob]? = some job →
      ∀ index ∈ job.partitions, (env.partition index).values.length ≠ env.scan.partitionKeys.length →
        (job.partitions.forM fun index => env.scan.verifyConsistentPartitionSerDe env.db (env.partition index)) =
          .ok () → (job.root = true → rtrim env.scan.rootLocation '/' ≠ []) →
        ∃ wrong ∈ job.partitions, ∃ exception, env.checkValueCount wrong = .error exception ∧
          (state.perform executor operation).1 = some exception

/-- Where a pushdown comes to a filter on a partition key, the partition has a value for the
key. -/
def PushdownCovered (state : HiveScanState env) : ScanOperation env Op Value Filter → Prop
  | .complexFilterPushdown position info filters =>
      ∀ list projections, env.scan.partitionKeys ≠ [] → state.lists[position]? = some list →
        env.partitionKeyProjections info.columnIndexes = .ok projections →
          ∀ index, Reached (env.isJudged executor info.tableIndex projections · filters) list.indexes index →
            ∀ filter, Reached (env.keepsPartition executor info.tableIndex projections index) filters filter →
              ∀ ref, Reached (env.isReplaced executor info.tableIndex projections index) filter.columns ref →
                ∀ keyIndex, HiveListing.replacedKey info.tableIndex projections ref = some keyIndex →
                  keyIndex < (env.partition index).values.length
  | .dynamicFilterPushdown position columnIndexes filters =>
      ∀ list keyFilters, env.scan.partitionKeys ≠ [] → state.lists[position]? = some list →
        filters.mapM (env.keyFilter columnIndexes) = .ok keyFilters →
          ∀ index, Reached (env.isTested executor keyFilters.reduceOption) list.indexes index →
            ∀ keyFilter, Reached (env.acceptsPartition executor index) keyFilters.reduceOption keyFilter →
              keyFilter.partitionKeyIndex < (env.partition index).values.length
  | _ => True

end HiveScanState

namespace HiveMultiFileList

open HiveListing

variable {env : HiveListing} {shared : FilePartitions env} {list : HiveMultiFileList env}

/-- Every file of the list is one of a partition with a value for each key. -/
def CountedFiles (list : HiveMultiFileList env) : Prop :=
  ∀ file ∈ list.expandedFiles, ∃ index, env.owningPartition file.path 0 = some index ∧
    (env.partition index).values.length = env.scan.partitionKeys.length

theorem checkValueCount_eq_ok {index : env.Index} :
    env.checkValueCount index = .ok () ↔ (env.partition index).values.length = env.scan.partitionKeys.length := by
  unfold HiveListing.checkValueCount
  dsimp only
  split_ifs with wrong
  · exact iff_of_false nofun wrong
  · exact iff_of_true rfl (not_not.mp wrong)

/-- A job adds files of its partitions. -/
theorem mem_of_jobSteps {job : ListingJob env} {file : OpenFileInfo} {index : env.Index}
    (added : .ok (some (file, index)) ∈ env.jobSteps job) : index ∈ job.partitions := by
  unfold HiveListing.jobSteps at added
  split_ifs at added with root
  · obtain ⟨found, -, step⟩ := mem_rootSteps.mp added
    exact (rootStep_eq_some step).2.2.1
  · exact (partitionSteps_added.mp added).1

/-- A job that passes its checks is of partitions with a value for each key. -/
theorem counted_of_jobChecks {job : ListingJob env} (checked : env.jobChecks job = .ok ()) {index : env.Index}
    (member : index ∈ job.partitions) : (env.partition index).values.length = env.scan.partitionKeys.length := by
  unfold jobChecks at checked
  obtain ⟨_, -, checked⟩ := bind_eq_ok.mp checked
  have counted : job.partitions.forM env.checkValueCount = .ok () := by
    split_ifs at checked with empty
    · cases checked
    · exact checked
  exact checkValueCount_eq_ok.mp (forM_eq_ok.mp counted index member)

variable (partitioned : env.scan.partitionKeys ≠ [])

theorem planListings_expandedFiles : list.planListings.expandedFiles = list.expandedFiles := by
  unfold planListings
  split_ifs <;> rfl

include partitioned in
/-- A listing adds files of partitions with a value for each key only. -/
theorem expandNextPath_counted (owned : Owned shared) (counted : list.CountedFiles) :
    Owned (list.expandNextPath shared).2.1 ∧ (list.expandNextPath shared).2.2.CountedFiles := by
  have before : list.planListings.CountedFiles := by
    unfold CountedFiles
    rw [planListings_expandedFiles]
    exact counted
  unfold expandNextPath
  dsimp only
  cases left : list.planListings.listingJobs[list.planListings.nextJob]? with
  | none => exact ⟨owned, before⟩
  | some job =>
      dsimp only
      rw [runJob_eq partitioned]
      cases checked : env.jobChecks job with
      | error exception => exact ⟨owned, before⟩
      | ok _ =>
          have added : ∀ file index, .ok (some (file, index)) ∈ env.jobSteps job →
              env.owningPartition file.path 0 = some index ∧
                (env.partition index).values.length = env.scan.partitionKeys.length :=
            fun file index step => ⟨jobSteps_owned step, counted_of_jobChecks checked (mem_of_jobSteps step)⟩
          have kept := addFiles_induction (P := fun shared list => Owned shared ∧ list.CountedFiles)
            (fun file index shared list step kept => by
              unfold addFile
              split_ifs
              · exact kept
              · refine ⟨lookup_insert_owned kept.1 (added file index step).1, ?_⟩
                intro other member
                rcases List.mem_append.mp member with old | new
                · exact kept.2 other old
                · cases List.mem_singleton.mp new
                  exact ⟨index, added file index step⟩)
            (⟨owned, before⟩ : Owned shared ∧ { list.planListings with nextJob := list.planListings.nextJob + 1 }.CountedFiles)
          dsimp only
          match addFiles (env.jobSteps job) shared { list.planListings with nextJob := list.planListings.nextJob + 1 },
            kept with
          | (some exception, shared, list), kept => exact kept
          | (none, shared, list), kept => exact kept

end HiveMultiFileList

namespace HiveScanState

open HiveListing

variable {Op Value Filter : Type} {executor : ExpressionExecutor Op Value Filter} {env : HiveListing}
  {state : HiveScanState env} {list : HiveMultiFileList env}

/-- The lists a pushdown makes have listed nothing yet. -/
theorem complexFilterPushdown_fresh {info : MultiFilePushdownInfo Op Value} {filters : List (Expression ColumnRef Op Value)}
    {result : FilterPushdown env Op Value} (done : env.complexFilterPushdown executor info list filters = .ok result)
    {later : HiveMultiFileList env} (made : later ∈ result.files.toList) : later.expandedFiles = [] := by
  unfold complexFilterPushdown at done
  split at done
  · cases done
    cases made
  obtain ⟨projections, -, done⟩ := bind_eq_ok.mp done
  split at done
  · cases done
    cases made
  obtain ⟨read, -, done⟩ := bind_eq_ok.mp done
  cases done
  dsimp only at made
  split_ifs at made
  · cases made
  · cases List.mem_singleton.mp made
    rfl

theorem dynamicFilterPushdown_fresh {columnIndexes : List ColumnIndex} {filters : List (ℕ × Filter)}
    {result : Option (HiveMultiFileList env)}
    (done : env.dynamicFilterPushdown executor columnIndexes list filters = .ok result)
    {later : HiveMultiFileList env} (made : later ∈ result.toList) : later.expandedFiles = [] := by
  unfold dynamicFilterPushdown at done
  split at done
  · cases done
    cases made
  obtain ⟨found, -, done⟩ := bind_eq_ok.mp done
  dsimp only at done
  split at done
  · cases done
    cases made
  obtain ⟨passed, -, done⟩ := bind_eq_ok.mp done
  cases done
  split_ifs at made
  · cases made
  · cases List.mem_singleton.mp made
    rfl

/-- What the operations on a partitioned table keep of the lists. -/
structure Counted (state : HiveScanState env) : Prop where
  owned : Owned state.filePartitions
  files : ∀ list ∈ state.lists, list.CountedFiles

theorem Counted.set (counted : state.Counted) {position : ℕ} {shared : FilePartitions env} (owned : Owned shared)
    (files : list.CountedFiles) : Counted ⟨shared, state.lists.set position list⟩ := by
  refine ⟨owned, ?_⟩
  intro other member
  rcases List.mem_or_eq_of_mem_set member with old | new
  · exact counted.files other old
  · cases new
    exact files

theorem Counted.append (counted : state.Counted) {more : List (HiveMultiFileList env)}
    (fresh : ∀ list ∈ more, list.expandedFiles = []) : Counted { state with lists := state.lists ++ more } := by
  refine ⟨counted.owned, ?_⟩
  intro other member
  rcases List.mem_append.mp member with old | new
  · exact counted.files other old
  · intro file listed
    rw [fresh other new] at listed
    cases listed

variable (partitioned : env.scan.partitionKeys ≠ [])
include partitioned

theorem perform_counted (operation : ScanOperation env Op Value Filter) (counted : state.Counted) :
    (state.perform executor operation).2.Counted := by
  cases operation with
  | complexFilterPushdown position info filters =>
      dsimp only [perform]
      cases state.lists[position]? with
      | none => exact counted
      | some list =>
          dsimp only
          cases done : env.complexFilterPushdown executor info list filters with
          | error _ => exact counted
          | ok result => exact counted.append fun _ made => complexFilterPushdown_fresh done made
  | dynamicFilterPushdown position columnIndexes filters =>
      dsimp only [perform]
      cases state.lists[position]? with
      | none => exact counted
      | some list =>
          dsimp only
          cases done : env.dynamicFilterPushdown executor columnIndexes list filters with
          | error _ => exact counted
          | ok result => exact counted.append fun _ made => dynamicFilterPushdown_fresh done made
  | hivePartitionStatistics => exact counted
  | listSampleDirectory position available =>
      dsimp only [perform, step]
      cases here : state.lists[position]? with
      | none => exact counted
      | some list =>
          obtain ⟨owned, -, same⟩ := listSampleDirectory_kept partitioned list available counted.owned
          apply counted.set owned
          rw [same]
          unfold CountedFiles
          rw [planListings_expandedFiles]
          exact counted.files list (List.mem_of_getElem? here)
  | expandNextPath position =>
      dsimp only [perform, step]
      cases here : state.lists[position]? with
      | none => exact counted
      | some list =>
          have kept := expandNextPath_counted partitioned counted.owned (counted.files list (List.mem_of_getElem? here))
          dsimp only
          match list.expandNextPath state.filePartitions, kept with
          | (.error _, _, _), kept => exact counted.set kept.1 kept.2
          | (.ok _, _, _), kept => exact counted.set kept.1 kept.2
  | copy position =>
      dsimp only [perform, step]
      cases state.lists[position]? with
      | none => exact counted
      | some list =>
          apply counted.append
          intro other member
          cases List.mem_singleton.mp member
          rfl
  | finalizeBind position file =>
      dsimp only [perform]
      cases state.fileAt position file <;> exact counted

theorem planned_counted (operations : List (ScanOperation env Op Value Filter)) : (planned executor operations).Counted := by
  have steps : ∀ state : HiveScanState env, state.Counted →
      (operations.foldl (fun state operation => (state.perform executor operation).2) state).Counted := by
    induction operations with
    | nil => exact fun _ counted => counted
    | cons operation operations ih =>
        exact fun state counted => ih _ (perform_counted partitioned operation counted)
  refine steps (start none) ⟨?_, ?_⟩
  · intro path index found
    simp [start] at found
  · intro list member file listed
    cases List.mem_singleton.mp member
    cases listed

omit partitioned

/-- The values looked up for the references of a filter. -/
theorem mem_filterReads {tableIndex : ℕ} {projections : List PartitionKeyProjection} {index : env.Index}
    {filter : Expression ColumnRef Op Value} {read : ValueRead env} :
    read ∈ env.filterReads executor tableIndex projections index filter ↔
      ∃ ref, Reached (env.isReplaced executor tableIndex projections index) filter.columns ref ∧
        ∃ keyIndex, replacedKey tableIndex projections ref = some keyIndex ∧ read = (index, keyIndex) := by
  unfold filterReads
  rw [mem_inTurn]
  simp only [List.mem_map, Option.mem_toList, eq_comm]

theorem complexFilterReads_inRange {tableIndex : ℕ} {projections : List PartitionKeyProjection}
    {candidates : List env.Index} {filters : List (Expression ColumnRef Op Value)} :
    (∀ read ∈ env.complexFilterReads executor tableIndex projections candidates filters, env.InRange read) ↔
      ∀ index, Reached (env.isJudged executor tableIndex projections · filters) candidates index →
        ∀ filter, Reached (env.keepsPartition executor tableIndex projections index) filters filter →
          ∀ ref, Reached (env.isReplaced executor tableIndex projections index) filter.columns ref →
            ∀ keyIndex, replacedKey tableIndex projections ref = some keyIndex →
              keyIndex < (env.partition index).values.length := by
  unfold complexFilterReads
  simp only [mem_inTurn, mem_filterReads]
  constructor
  · intro inRange index judged filter kept ref replaced keyIndex key
    exact inRange (index, keyIndex) ⟨index, judged, filter, kept, ref, replaced, keyIndex, key, rfl⟩
  · intro covered read ⟨index, judged, filter, kept, ref, replaced, keyIndex, key, same⟩
    subst same
    exact covered index judged filter kept ref replaced keyIndex key

theorem dynamicFilterReads_inRange {candidates : List env.Index} {keyFilters : List (PartitionKeyFilter Filter)} :
    (∀ read ∈ env.dynamicFilterReads executor candidates keyFilters, env.InRange read) ↔
      ∀ index, Reached (env.isTested executor keyFilters) candidates index →
        ∀ keyFilter, Reached (env.acceptsPartition executor index) keyFilters keyFilter →
          keyFilter.partitionKeyIndex < (env.partition index).values.length := by
  unfold dynamicFilterReads
  simp only [mem_inTurn, List.mem_singleton]
  constructor
  · intro inRange index tested keyFilter accepted
    exact inRange (index, keyFilter.partitionKeyIndex) ⟨index, tested, keyFilter, accepted, rfl⟩
  · intro covered read ⟨index, tested, keyFilter, accepted, same⟩
    subst same
    exact covered index tested keyFilter accepted

/-- Statistics look up no value that is not there. -/
theorem statisticsReads_inRange {indexes : List env.Index} {key : StatisticsKey} {read : ValueRead env}
    (member : read ∈ env.statisticsReads executor indexes key) : env.InRange read := by
  obtain ⟨index, -, here⟩ := mem_inTurn.mp member
  split_ifs at here with inRange
  · cases List.mem_singleton.mp here
    exact inRange
  · cases here

theorem keyIndex_lt {name : Text} {keyIndex : ℕ} (key : env.scan.getPartitionKeyIndex name = some keyIndex) :
    keyIndex < env.scan.partitionKeys.length := by
  obtain ⟨inside, -⟩ := List.findIdx?_eq_some_iff_getElem.mp key
  exact inside

/-- Files are read only of partitions with a value for each key. -/
theorem finalizeBindReads_inRange {index : env.Index} {localNames : List Text}
    {virtualColumn : ℕ → Option (Option Value)} {columnIndexes : List ColumnIndex} {read : ValueRead env}
    (counted : env.scan.partitionKeys ≠ [] → (env.partition index).values.length = env.scan.partitionKeys.length)
    (member : read ∈ env.finalizeBindReads executor index localNames virtualColumn columnIndexes) : env.InRange read := by
  obtain ⟨⟨column, position⟩, -, here⟩ := mem_inTurn.mp member
  dsimp only at here
  split at here
  · rename_i keyIndex key
    cases List.mem_singleton.mp here
    obtain ⟨_, name, -, -, found⟩ := projectedKey_eq_some.mp key
    have inside := keyIndex_lt found
    have partitioned : env.scan.partitionKeys ≠ [] := List.ne_nil_of_length_pos (Nat.zero_lt_of_lt inside)
    unfold InRange
    rw [counted partitioned]
    exact inside
  · cases here

/-- A listing that comes to a partition with the wrong number of values is refused for one. -/
theorem expandNextPath_reports (partitioned : env.scan.partitionKeys ≠ []) {shared : FilePartitions env}
    {job : ListingJob env} (next : list.planListings.listingJobs[list.planListings.nextJob]? = some job)
    {index : env.Index} (member : index ∈ job.partitions)
    (wrong : (env.partition index).values.length ≠ env.scan.partitionKeys.length)
    (verified : (job.partitions.forM fun index =>
      env.scan.verifyConsistentPartitionSerDe env.db (env.partition index)) = .ok ())
    (located : job.root = true → rtrim env.scan.rootLocation '/' ≠ []) :
    ∃ wrong ∈ job.partitions, ∃ exception, env.checkValueCount wrong = .error exception ∧
      (list.expandNextPath shared).1 = .error exception := by
  have checks : env.jobChecks job = job.partitions.forM env.checkValueCount := by
    unfold jobChecks
    rw [verified]
    by_cases root : job.root = true ∧ rtrim env.scan.rootLocation '/' = []
    · exact absurd root.2 (located root.1)
    · simp only [bind, Except.bind]
      rw [if_neg root]
  cases counted : job.partitions.forM env.checkValueCount with
  | ok _ => exact absurd (checkValueCount_eq_ok.mp (forM_eq_ok.mp counted index member)) wrong
  | error exception =>
      obtain ⟨other, inside, refused⟩ := forM_eq_error counted
      refine ⟨other, inside, exception, refused, ?_⟩
      unfold expandNextPath
      dsimp only
      rw [next]
      dsimp only
      rw [runJob_eq partitioned, checks, counted]

section Beyond

variable {index : env.Index} {tableIndex : ℕ} {projections : List PartitionKeyProjection} {candidates : List env.Index}
  {filters : List (Expression ColumnRef Op Value)} {filter : Expression ColumnRef Op Value} {keyIndex : ℕ}

theorem exists_ok_of_isOk {α : Type} {x : Except Exception α} (passed : x.isOk = true) : ∃ a, x = .ok a := by
  cases x with
  | error _ => cases passed
  | ok a => exact ⟨a, rfl⟩

/-- Looking up a value that is not there throws. -/
theorem keyValue_of_beyond {partition : GluePartitionInfo} {type : LogicalType} (beyond : partition.values.length ≤ keyIndex) :
    ∃ message, env.keyValue executor partition keyIndex type = .error (.internal message) := by
  unfold keyValue vectorAt
  cases env.scan.partitionKeys[keyIndex]? with
  | none => exact ⟨_, rfl⟩
  | some key =>
      rw [List.getElem?_eq_none beyond]
      exact ⟨_, rfl⟩

theorem partitionConstant_of_beyond {partition : GluePartitionInfo} {ref : ColumnRef}
    (key : replacedKey tableIndex projections ref = some keyIndex) (beyond : partition.values.length ≤ keyIndex) :
    ∃ message, env.partitionConstant executor tableIndex projections partition ref = .error (.internal message) := by
  unfold replacedKey at key
  unfold partitionConstant
  split_ifs at key ⊢
  obtain ⟨projection, found, same⟩ := Option.map_eq_some_iff.mp key
  obtain ⟨message, thrown⟩ := @keyValue_of_beyond _ _ _ executor env keyIndex partition ref.returnType beyond
  refine ⟨message, ?_⟩
  rw [found]
  dsimp only
  rw [same, thrown]
  rfl

theorem decideFilter_of_beyond
    {ref : ColumnRef} (reached : Reached (env.isReplaced executor tableIndex projections index) filter.columns ref)
    (key : replacedKey tableIndex projections ref = some keyIndex)
    (beyond : (env.partition index).values.length ≤ keyIndex) :
    ∃ message, env.decideFilter executor tableIndex projections (env.partition index) filter =
      .error (.internal message) := by
  obtain ⟨message, thrown⟩ := @partitionConstant_of_beyond _ _ _ executor env tableIndex projections keyIndex _ _ key beyond
  refine ⟨message, ?_⟩
  have replaced := (Expression.replaceColumns_ends filter).mpr
    (mapM_of_reached (fun _ _ passed => exists_ok_of_isOk passed) reached thrown)
  unfold decideFilter replacePartitionColumnRefs
  rw [replaced]
  rfl

theorem judge_of_reached {F : Type} {decide : F → Except Exception (Option Bool)} {keeps : F → Bool} {filters : List F}
    {filter : F} {failed : Exception}
    (keeps_iff : ∀ filter, keeps filter = true → decide filter = .ok none ∨ decide filter = .ok (some true))
    (reached : Reached keeps filters filter) (thrown : decide filter = .error failed) (start : ℕ) :
    judge decide (filters.zipIdx start) = .error failed := by
  induction reached generalizing start with
  | here =>
      rw [List.zipIdx_cons, judge, thrown]
      rfl
  | later on _ ih =>
      rw [List.zipIdx_cons, judge]
      rcases keeps_iff _ on with undecided | holds
      · rw [undecided]
        exact ih thrown (start + 1)
      · rw [holds]
        simp only [bind, Except.bind]
        rw [ih thrown (start + 1)]

theorem tabulate_of_reached {β : Type} {run : env.Index → Except Exception β} {goesOn : env.Index → Bool}
    {failed : Exception} (on : ∀ index, goesOn index = true → (run index).isOk = true)
    (reached : Reached goesOn candidates index) (thrown : run index = .error failed) :
    Fallible.tabulate run candidates = .error failed := by
  apply mapM_of_reached _ reached
  · rw [thrown]
    rfl
  · intro other _ passed
    obtain ⟨result, ran⟩ := exists_ok_of_isOk (on other passed)
    refine ⟨(other, result), ?_⟩
    rw [ran]
    rfl

/-- Results beside what they are of can not be computed where one can not. -/
theorem reached_of_tabulate {β : Type} {run : env.Index → Except Exception β} {goesOn : env.Index → Bool}
    {failed : Exception} (on : ∀ index result, run index = .ok result → goesOn index = true)
    (thrown : Fallible.tabulate run candidates = .error failed) :
    ∃ index, Reached goesOn candidates index ∧ run index = .error failed := by
  have passed : ∀ index ∈ candidates, ∀ pair : env.Index × β,
      (do return (index, ← run index) : Except Exception (env.Index × β)) = .ok pair → goesOn index = true := by
    intro index _ pair made
    obtain ⟨result, ran, _⟩ := Fallible.bind_eq_ok.mp made
    exact on index result ran
  obtain ⟨index, reached, failing⟩ := reached_of_mapM passed thrown
  exact ⟨index, reached, Fallible.error_of_bind (fun result => ⟨(index, result), rfl⟩) failing⟩

/-- A pushdown that looks up a value a partition does not have ends with an internal error. -/
theorem complexFilterPushdown_of_beyond {info : MultiFilePushdownInfo Op Value} (keyed : env.scan.partitionKeys ≠ [])
    (projected : env.partitionKeyProjections info.columnIndexes = .ok projections) {read : ValueRead env}
    (member : read ∈ env.complexFilterReads executor info.tableIndex projections list.indexes filters)
    (beyond : ¬env.InRange read) :
    ∃ message, env.complexFilterPushdown executor info list filters = .error (.internal message) := by
  unfold complexFilterReads at member
  obtain ⟨index, judged, member⟩ := mem_inTurn.mp member
  obtain ⟨filter, kept, member⟩ := mem_inTurn.mp member
  obtain ⟨ref, replaced, keyIndex, key, same⟩ := mem_filterReads.mp member
  subst same
  obtain ⟨message, thrown⟩ := decideFilter_of_beyond replaced key (Nat.le_of_not_lt beyond)
  refine ⟨message, ?_⟩
  have verdict : env.verdict executor info.tableIndex projections filters index = .error (.internal message) := by
    apply judge_of_reached _ kept thrown 0
    intro other keeps
    unfold keepsPartition at keeps
    split at keeps
    · rename_i undecided
      exact .inl undecided
    · rename_i holds decided
      rw [keeps] at decided
      exact .inr decided
    · cases keeps
  have read : env.partitionsToRead executor info.tableIndex projections list.indexes filters =
      .error (.internal message) := by
    unfold partitionsToRead
    rw [tabulate_of_reached (fun _ passed => passed) judged verdict]
    rfl
  have filtered : filters.isEmpty = false := by
    cases filters with
    | nil => cases kept
    | cons => rfl
  have projects : projections.isEmpty = false := by
    cases projections with
    | nil =>
        unfold replacedKey at key
        split_ifs at key
        cases key
    | cons => rfl
  unfold complexFilterPushdown
  rw [if_neg (by simp [keyed, filtered]), projected]
  simp only [bind, Except.bind]
  rw [if_neg (by simp [projects]), read]

theorem passes_of_reached {keyFilters : List (PartitionKeyFilter Filter)} {keyFilter : PartitionKeyFilter Filter}
    {failed : Exception} (reached : Reached (env.acceptsPartition executor index) keyFilters keyFilter)
    (thrown : env.keyValue executor (env.partition index) keyFilter.partitionKeyIndex keyFilter.type = .error failed) :
    env.passes executor (env.partition index) keyFilters = .error failed := by
  induction reached with
  | here =>
      rw [passes, thrown]
      rfl
  | later on _ ih =>
      rw [passes]
      unfold acceptsPartition at on
      split at on
      · rename_i value known
        rw [known]
        simp only [bind, Except.bind]
        rw [if_pos on]
        exact ih thrown
      · cases on

theorem dynamicFilterPushdown_of_beyond {columnIndexes : List ColumnIndex} {given : List (ℕ × Filter)}
    {keyFilters : List (Option (PartitionKeyFilter Filter))} (keyed : env.scan.partitionKeys ≠ [])
    (collected : given.mapM (env.keyFilter columnIndexes) = .ok keyFilters) {read : ValueRead env}
    (member : read ∈ env.dynamicFilterReads executor list.indexes keyFilters.reduceOption)
    (beyond : ¬env.InRange read) :
    ∃ message, env.dynamicFilterPushdown executor columnIndexes list given = .error (.internal message) := by
  unfold dynamicFilterReads at member
  obtain ⟨index, tested, member⟩ := mem_inTurn.mp member
  obtain ⟨keyFilter, accepted, member⟩ := mem_inTurn.mp member
  cases List.mem_singleton.mp member
  obtain ⟨message, thrown⟩ := @keyValue_of_beyond _ _ _ executor env keyFilter.partitionKeyIndex (env.partition index)
    keyFilter.type (Nat.le_of_not_lt beyond)
  refine ⟨message, ?_⟩
  have filtered : given.isEmpty = false := by
    cases given with
    | nil =>
        cases collected
        cases accepted
    | cons => rfl
  have keys : keyFilters.reduceOption.isEmpty = false := by
    cases held : keyFilters.reduceOption with
    | nil =>
        rw [held] at accepted
        cases accepted
    | cons => rfl
  unfold dynamicFilterPushdown
  rw [if_neg (by simp [keyed, filtered]), collected]
  simp only [bind, Except.bind]
  rw [if_neg (by simp [keys]), tabulate_of_reached (fun _ passed => passed) tested (passes_of_reached accepted thrown)]

/-- Only a value that is not there is looked up in vain. -/
theorem beyond_of_keyValue {partition : GluePartitionInfo} {type : LogicalType} {message : Text}
    (inside : keyIndex < env.scan.partitionKeys.length)
    (thrown : env.keyValue executor partition keyIndex type = .error (.internal message)) :
    partition.values.length ≤ keyIndex := by
  by_contra there
  unfold keyValue vectorAt at thrown
  rw [List.getElem?_eq_getElem inside, List.getElem?_eq_getElem (Nat.lt_of_not_le there)] at thrown
  simp only [bind, Except.bind, GlueTypes.partitionValue] at thrown
  split_ifs at thrown
  split at thrown
  · cases thrown
  · cases thrown

theorem projection_inside {columnIndexes : List ColumnIndex}
    (projected : env.partitionKeyProjections columnIndexes = .ok projections) {projection : PartitionKeyProjection}
    (member : projection ∈ projections) : projection.partitionKeyIndex < env.scan.partitionKeys.length := by
  obtain ⟨column, _, key⟩ := mem_partitionKeyProjections projected member
  obtain ⟨_, _, _, _, found⟩ := projectedKey_eq_some.mp key
  exact keyIndex_lt found

/-- A reference that can not be replaced is of a key. -/
theorem replacedKey_of_partitionConstant {partition : GluePartitionInfo} {ref : ColumnRef} {failed : Exception}
    (thrown : env.partitionConstant executor tableIndex projections partition ref = .error failed) :
    ∃ projection ∈ projections, replacedKey tableIndex projections ref = some projection.partitionKeyIndex ∧
      env.keyValue executor partition projection.partitionKeyIndex ref.returnType = .error failed := by
  unfold partitionConstant at thrown
  unfold replacedKey
  split_ifs at thrown ⊢
  cases found : projections.find? fun projection => decide (projection.projectedColumnIndex = ref.columnIndex) with
  | none =>
      rw [found] at thrown
      cases thrown
  | some projection =>
      rw [found] at thrown
      dsimp only at thrown
      exact ⟨projection, List.mem_of_find?_eq_some found, rfl, Fallible.error_of_bind (fun value => ⟨some value, rfl⟩) thrown⟩

/-- A filter that can not be decided has come to a reference that can not be replaced. -/
theorem reached_of_decideFilter {failed : Exception}
    (thrown : env.decideFilter executor tableIndex projections (env.partition index) filter = .error failed) :
    ∃ ref, Reached (env.isReplaced executor tableIndex projections index) filter.columns ref ∧
      env.partitionConstant executor tableIndex projections (env.partition index) ref = .error failed := by
  have replaced : env.replacePartitionColumnRefs executor tableIndex projections (env.partition index) filter =
      .error failed := by
    unfold decideFilter at thrown
    apply Fallible.error_of_bind _ thrown
    intro constant
    split_ifs
    · exact ⟨_, rfl⟩
    · split
      · exact ⟨_, rfl⟩
      · exact ⟨_, rfl⟩
      · exact ⟨_, rfl⟩
  apply reached_of_mapM _ ((Expression.replaceColumns_ends filter).mp replaced)
  intro ref _ constant known
  unfold isReplaced
  rw [known]
  rfl

/-- Filters that can not be judged have come to one that can not be decided. -/
theorem reached_of_judge {F : Type} {decide : F → Except Exception (Option Bool)} {keeps : F → Bool} {filters : List F}
    {failed : Exception} (keeps_of : ∀ filter, decide filter = .ok none ∨ decide filter = .ok (some true) → keeps filter = true)
    {start : ℕ} (thrown : judge decide (filters.zipIdx start) = .error failed) :
    ∃ filter, Reached keeps filters filter ∧ decide filter = .error failed := by
  induction filters generalizing start with
  | nil => cases thrown
  | cons filter filters ih =>
      rw [List.zipIdx_cons, judge] at thrown
      cases decided : decide filter with
      | error other =>
          rw [decided] at thrown
          cases thrown
          exact ⟨filter, .here, decided⟩
      | ok result =>
          have goesOn : keeps filter = true → judge decide (filters.zipIdx (start + 1)) = .error failed →
              ∃ filter', Reached keeps (filter :: filters) filter' ∧ decide filter' = .error failed := by
            intro kept rest
            obtain ⟨other, reached, fails⟩ := ih rest
            exact ⟨other, .later kept reached, fails⟩
          rw [decided] at thrown
          cases result with
          | none => exact goesOn (keeps_of filter (.inl decided)) thrown
          | some holds =>
              cases holds with
              | false => cases thrown
              | true =>
                  apply goesOn (keeps_of filter (.inr decided))
                  cases rest : judge decide (filters.zipIdx (start + 1)) with
                  | error other =>
                      simp only [bind, Except.bind, rest] at thrown
                      exact thrown
                  | ok verdict =>
                      simp only [bind, Except.bind, rest] at thrown
                      cases verdict <;> cases thrown

/-- A pushdown that throws has come to a partition that no verdict can be given on. -/
theorem reached_of_complexFilterPushdown {info : MultiFilePushdownInfo Op Value} {failed : Exception}
    (projected : env.partitionKeyProjections info.columnIndexes = .ok projections)
    (thrown : env.complexFilterPushdown executor info list filters = .error failed) :
    ∃ index, Reached (env.isJudged executor info.tableIndex projections · filters) list.indexes index ∧
      env.verdict executor info.tableIndex projections filters index = .error failed := by
  have read : env.partitionsToRead executor info.tableIndex projections list.indexes filters = .error failed := by
    unfold complexFilterPushdown at thrown
    rw [projected] at thrown
    by_cases unfiltered : (decide (env.scan.partitionKeys = []) || filters.isEmpty) = true
    · rw [if_pos unfiltered] at thrown
      cases thrown
    · rw [if_neg unfiltered] at thrown
      change (if projections.isEmpty = true then _ else _) = _ at thrown
      by_cases none : projections.isEmpty = true
      · rw [if_pos none] at thrown
        cases thrown
      · rw [if_neg none] at thrown
        exact Fallible.error_of_bind (fun _ => ⟨_, rfl⟩) thrown
  have verdicts : Fallible.tabulate (env.verdict executor info.tableIndex projections filters) list.indexes =
      .error failed := by
    unfold partitionsToRead at read
    exact Fallible.error_of_bind (fun _ => ⟨_, rfl⟩) read
  apply reached_of_tabulate _ verdicts
  intro index verdict known
  unfold isJudged
  rw [known]
  rfl

/-- A pushdown that ends with an internal error has looked up a value a partition does not
have. -/
theorem beyond_of_complexFilterPushdown {info : MultiFilePushdownInfo Op Value} {message : Text}
    (projected : env.partitionKeyProjections info.columnIndexes = .ok projections)
    (thrown : env.complexFilterPushdown executor info list filters = .error (.internal message)) :
    ∃ read ∈ env.complexFilterReads executor info.tableIndex projections list.indexes filters, ¬env.InRange read := by
  obtain ⟨index, judged, verdict⟩ := reached_of_complexFilterPushdown projected thrown
  have deciding : ∃ filter, Reached (env.keepsPartition executor info.tableIndex projections index) filters filter ∧
      env.decideFilter executor info.tableIndex projections (env.partition index) filter =
        .error (.internal message) := by
    apply reached_of_judge _ verdict
    intro filter decided
    unfold keepsPartition
    cases decided with
    | inl undecided => rw [undecided]
    | inr holds => rw [holds]
  obtain ⟨filter, kept, decided⟩ := deciding
  obtain ⟨ref, replaced, constant⟩ := reached_of_decideFilter decided
  obtain ⟨projection, member, key, value⟩ := replacedKey_of_partitionConstant constant
  have beyond := beyond_of_keyValue (projection_inside projected member) value
  refine ⟨(index, projection.partitionKeyIndex), ?_, Nat.not_lt_of_le beyond⟩
  apply mem_inTurn.mpr
  refine ⟨index, judged, mem_inTurn.mpr ⟨filter, kept, mem_filterReads.mpr ⟨ref, replaced, _, key, rfl⟩⟩⟩

/-- Filters that can not be evaluated have come to one whose value can not be looked up. -/
theorem reached_of_passes {keyFilters : List (PartitionKeyFilter Filter)} {failed : Exception}
    (thrown : env.passes executor (env.partition index) keyFilters = .error failed) :
    ∃ keyFilter, Reached (env.acceptsPartition executor index) keyFilters keyFilter ∧
      env.keyValue executor (env.partition index) keyFilter.partitionKeyIndex keyFilter.type = .error failed := by
  induction keyFilters with
  | nil => cases thrown
  | cons keyFilter keyFilters ih =>
      rw [passes] at thrown
      cases known : env.keyValue executor (env.partition index) keyFilter.partitionKeyIndex keyFilter.type with
      | error other =>
          rw [known] at thrown
          cases thrown
          exact ⟨keyFilter, .here, known⟩
      | ok value =>
          rw [known] at thrown
          simp only [bind, Except.bind] at thrown
          cases accepted : executor.evaluateWithConstant keyFilter.filter value with
          | false =>
              rw [accepted] at thrown
              cases thrown
          | true =>
              rw [accepted] at thrown
              obtain ⟨other, reached, fails⟩ := ih thrown
              refine ⟨other, .later ?_ reached, fails⟩
              unfold acceptsPartition
              rw [known]
              exact accepted

theorem keyFilter_inside {columnIndexes : List ColumnIndex} {given : List (ℕ × Filter)}
    {keyFilters : List (Option (PartitionKeyFilter Filter))}
    (collected : given.mapM (env.keyFilter columnIndexes) = .ok keyFilters) {keyFilter : PartitionKeyFilter Filter}
    (member : keyFilter ∈ keyFilters.reduceOption) : keyFilter.partitionKeyIndex < env.scan.partitionKeys.length := by
  obtain ⟨entry, _, made⟩ := Fallible.mem_of_mapM collected (List.reduceOption_mem_iff.mp member)
  obtain ⟨_, _, _, _, key, _, _⟩ := keyFilter_eq_some made
  obtain ⟨_, _, _, _, found⟩ := projectedKey_eq_some.mp key
  exact keyIndex_lt found

/-- A pushdown of join filters that throws has come to a partition they can not be evaluated for. -/
theorem reached_of_dynamicFilterPushdown {columnIndexes : List ColumnIndex} {given : List (ℕ × Filter)}
    {keyFilters : List (Option (PartitionKeyFilter Filter))} {failed : Exception}
    (collected : given.mapM (env.keyFilter columnIndexes) = .ok keyFilters)
    (thrown : env.dynamicFilterPushdown executor columnIndexes list given = .error failed) :
    ∃ index, Reached (env.isTested executor keyFilters.reduceOption) list.indexes index ∧
      env.passes executor (env.partition index) keyFilters.reduceOption = .error failed := by
  have tests : Fallible.tabulate (fun index => env.passes executor (env.partition index) keyFilters.reduceOption)
      list.indexes = .error failed := by
    unfold dynamicFilterPushdown at thrown
    rw [collected] at thrown
    by_cases unfiltered : (decide (env.scan.partitionKeys = []) || given.isEmpty) = true
    · rw [if_pos unfiltered] at thrown
      cases thrown
    · rw [if_neg unfiltered] at thrown
      change (if keyFilters.reduceOption.isEmpty = true then _ else _) = _ at thrown
      by_cases none : keyFilters.reduceOption.isEmpty = true
      · rw [if_pos none] at thrown
        cases thrown
      · rw [if_neg none] at thrown
        exact Fallible.error_of_bind (fun _ => ⟨_, rfl⟩) thrown
  apply reached_of_tabulate _ tests
  intro index passed known
  unfold isTested
  rw [known]
  rfl

theorem beyond_of_dynamicFilterPushdown {columnIndexes : List ColumnIndex} {given : List (ℕ × Filter)}
    {keyFilters : List (Option (PartitionKeyFilter Filter))} {message : Text}
    (collected : given.mapM (env.keyFilter columnIndexes) = .ok keyFilters)
    (thrown : env.dynamicFilterPushdown executor columnIndexes list given = .error (.internal message)) :
    ∃ read ∈ env.dynamicFilterReads executor list.indexes keyFilters.reduceOption, ¬env.InRange read := by
  obtain ⟨index, tested, failing⟩ := reached_of_dynamicFilterPushdown collected thrown
  obtain ⟨keyFilter, accepted, value⟩ := reached_of_passes failing
  have beyond := beyond_of_keyValue (keyFilter_inside collected accepted.mem) value
  refine ⟨(index, keyFilter.partitionKeyIndex), ?_, Nat.not_lt_of_le beyond⟩
  exact mem_inTurn.mpr ⟨index, tested, mem_inTurn.mpr ⟨keyFilter, accepted, List.mem_singleton_self _⟩⟩

theorem perform_complexFilterPushdown (position : ℕ) (info : MultiFilePushdownInfo Op Value) :
    (state.perform executor (.complexFilterPushdown position info filters)).1 =
      state.lists[position]?.bind fun list => thrown (env.complexFilterPushdown executor info list filters) := by
  dsimp only [perform]
  cases state.lists[position]? with
  | none => rfl
  | some list =>
      dsimp only [Option.bind_some]
      cases env.complexFilterPushdown executor info list filters <;> rfl

theorem perform_dynamicFilterPushdown (position : ℕ) (columnIndexes : List ColumnIndex) (given : List (ℕ × Filter)) :
    (state.perform executor (.dynamicFilterPushdown position columnIndexes given)).1 =
      state.lists[position]?.bind fun list => thrown (env.dynamicFilterPushdown executor columnIndexes list given) := by
  dsimp only [perform]
  cases state.lists[position]? with
  | none => rfl
  | some list =>
      dsimp only [Option.bind_some]
      cases env.dynamicFilterPushdown executor columnIndexes list given <;> rfl

/-- What ends with an internal error for a value that is not there, and for no other reason. -/
theorem internal_iff_beyond {α : Type} {done : Except Exception α} {reads : List (ValueRead env)}
    (looksUp : ∀ message, done = .error (.internal message) → ∃ read ∈ reads, ¬env.InRange read)
    (ends : ∀ read ∈ reads, ¬env.InRange read → ∃ message, done = .error (.internal message)) :
    (∃ message, thrown done = some (.internal message)) ↔ ∃ read ∈ reads, ¬env.InRange read := by
  constructor
  · intro ended
    obtain ⟨message, ended⟩ := ended
    apply looksUp message
    cases done with
    | ok result => cases ended
    | error failed => exact congrArg _ (Option.some.inj ended)
  · intro read
    obtain ⟨read, member, beyond⟩ := read
    obtain ⟨message, failed⟩ := ends read member beyond
    rw [failed]
    exact ⟨message, rfl⟩

/-- A pushdown of filters ends with an internal error just where it looks up a value that a
partition does not have. -/
theorem complexFilterPushdown_internal_iff {position : ℕ} {info : MultiFilePushdownInfo Op Value}
    (projected : env.partitionKeyProjections info.columnIndexes = .ok projections) :
    (∃ message, (state.perform executor (.complexFilterPushdown position info filters)).1 = some (.internal message)) ↔
      ∃ read ∈ valueReads executor state (.complexFilterPushdown position info filters), ¬env.InRange read := by
  rw [perform_complexFilterPushdown, valueReads, projected]
  cases state.lists[position]? with
  | none => simp
  | some list =>
      dsimp only [Option.bind_some]
      by_cases unpartitioned : env.scan.partitionKeys = []
      · have kept : env.complexFilterPushdown executor info list filters = .ok { filters, extraInfo := info.extraInfo } :=
          if_pos (by simp [unpartitioned])
        rw [if_pos unpartitioned, kept]
        simp [thrown]
      · rw [if_neg unpartitioned]
        exact internal_iff_beyond (fun _ => beyond_of_complexFilterPushdown projected)
          (fun _ => complexFilterPushdown_of_beyond unpartitioned projected)

/-- The same for a pushdown of join filters. -/
theorem dynamicFilterPushdown_internal_iff {position : ℕ} {columnIndexes : List ColumnIndex} {given : List (ℕ × Filter)}
    {keyFilters : List (Option (PartitionKeyFilter Filter))}
    (collected : given.mapM (env.keyFilter columnIndexes) = .ok keyFilters) :
    (∃ message, (state.perform executor (.dynamicFilterPushdown position columnIndexes given)).1 =
        some (.internal message)) ↔
      ∃ read ∈ valueReads executor state (.dynamicFilterPushdown position columnIndexes given), ¬env.InRange read := by
  rw [perform_dynamicFilterPushdown, valueReads, collected]
  cases state.lists[position]? with
  | none => simp
  | some list =>
      dsimp only [Option.bind_some]
      by_cases unpartitioned : env.scan.partitionKeys = []
      · have kept : env.dynamicFilterPushdown executor columnIndexes list given = .ok none :=
          if_pos (by simp [unpartitioned])
        rw [if_pos unpartitioned, kept]
        simp [thrown]
      · rw [if_neg unpartitioned]
        exact internal_iff_beyond (fun _ => beyond_of_dynamicFilterPushdown collected)
          (fun _ => dynamicFilterPushdown_of_beyond unpartitioned collected)

/-- The constant of a column of the table needs no more than the value of its key. -/
theorem constantColumn_internal_iff {localNames : List Text} {virtualColumn : ℕ → Option (Option Value)}
    {column : ColumnIndex × ℕ}
    (typed : ∀ number, column.1.id = .column number → number < env.scan.names.length ∧ number < env.scan.types.length)
    {message : Text} :
    env.constantColumn executor (env.partition index) localNames virtualColumn column = .error (.internal message) ↔
      ∃ keyIndex number type, env.projectedKey column.1.id = .ok (some keyIndex) ∧ column.1.id = .column number ∧
        env.scan.types[number]? = some type ∧
        env.keyValue executor (env.partition index) keyIndex type = .error (.internal message) := by
  unfold constantColumn
  cases id : column.1.id with
  | virtual number => simp [projectedKey]
  | column number =>
      obtain ⟨named, typed⟩ := typed number id
      have name := List.getElem?_eq_getElem named
      have type := List.getElem?_eq_getElem typed
      simp only [vectorAt, name, type, bind, Except.bind, projectedKey, pure, Except.pure]
      cases key : env.scan.getPartitionKeyIndex env.scan.names[number] with
      | none => simp
      | some keyIndex =>
          simp only [Except.ok.injEq, Option.some.injEq, ColumnId.column.injEq]
          constructor
          · intro thrown
            refine ⟨keyIndex, number, env.scan.types[number], rfl, rfl, type, ?_⟩
            exact Fallible.error_of_bind (fun value => ⟨some (column.2, value), rfl⟩) thrown
          · intro looked
            obtain ⟨_, _, _, rfl, rfl, same, thrown⟩ := looked
            rw [type] at same
            cases same
            rw [thrown]

/-- The constants of a file end with an internal error just where a value is looked up that
its partition does not have. -/
theorem constantColumns_internal_iff {localNames : List Text} {virtualColumn : ℕ → Option (Option Value)}
    {columnIndexes : List ColumnIndex}
    (typed : ∀ column ∈ columnIndexes, ∀ number, column.id = .column number →
      number < env.scan.names.length ∧ number < env.scan.types.length) :
    (∃ message, columnIndexes.zipIdx.mapM (env.constantColumn executor (env.partition index) localNames virtualColumn) =
        .error (.internal message)) ↔
      ∃ read ∈ env.finalizeBindReads executor index localNames virtualColumn columnIndexes, ¬env.InRange read := by
  have inside : ∀ {column : ColumnIndex × ℕ}, column ∈ columnIndexes.zipIdx → ∀ number, column.1.id = .column number →
      number < env.scan.names.length ∧ number < env.scan.types.length := by
    intro column member
    exact typed column.1 (List.fst_mem_of_mem_zipIdx member)
  constructor
  · intro ended
    obtain ⟨message, thrown⟩ := ended
    have on : ∀ column ∈ columnIndexes.zipIdx, ∀ constant,
        env.constantColumn executor (env.partition index) localNames virtualColumn column = .ok constant →
          (env.constantColumn executor (env.partition index) localNames virtualColumn column).isOk = true := by
      intro column _ constant known
      rw [known]
      rfl
    obtain ⟨column, reached, failed⟩ := reached_of_mapM on thrown
    obtain ⟨keyIndex, number, type, key, _, _, value⟩ := (constantColumn_internal_iff (inside reached.mem)).mp failed
    obtain ⟨_, _, _, _, found⟩ := projectedKey_eq_some.mp key
    have beyond := beyond_of_keyValue (keyIndex_lt found) value
    refine ⟨(index, keyIndex), mem_inTurn.mpr ⟨column, reached, ?_⟩, Nat.not_lt_of_le beyond⟩
    rw [key]
    exact List.mem_singleton_self _
  · intro read
    obtain ⟨read, member, beyond⟩ := read
    obtain ⟨column, reached, here⟩ := mem_inTurn.mp member
    split at here
    · rename_i keyIndex key
      cases List.mem_singleton.mp here
      obtain ⟨number, _, id, _, _⟩ := projectedKey_eq_some.mp key
      have there := (inside reached.mem number id).2
      obtain ⟨message, value⟩ := @keyValue_of_beyond _ _ _ executor env keyIndex (env.partition index)
        env.scan.types[number] (Nat.le_of_not_lt beyond)
      have failed : env.constantColumn executor (env.partition index) localNames virtualColumn column =
          .error (.internal message) :=
        (constantColumn_internal_iff (inside reached.mem)).mpr
          ⟨keyIndex, number, _, key, id, List.getElem?_eq_getElem there, value⟩
      exact ⟨message, mapM_of_reached (fun _ _ passed => exists_ok_of_isOk passed) reached failed⟩
    · cases here

end Beyond

/-- The values of partitions are looked up rightly exactly where no pushdown comes to a
filter on a key that the partition has no value for. -/
theorem readsGuarded_iff (operations : List (ScanOperation env Op Value Filter))
    (operation : ScanOperation env Op Value Filter) :
    ReadsGuarded executor (planned executor operations) operation ↔
      PushdownCovered executor (planned executor operations) operation := by
  have reported : env.scan.partitionKeys ≠ [] → ∀ position list job, operation = .expandNextPath position →
      (planned executor operations).lists[position]? = some list →
        list.planListings.listingJobs[list.planListings.nextJob]? = some job →
          ∀ index ∈ job.partitions, (env.partition index).values.length ≠ env.scan.partitionKeys.length →
            (job.partitions.forM fun index =>
              env.scan.verifyConsistentPartitionSerDe env.db (env.partition index)) = .ok () →
              (job.root = true → rtrim env.scan.rootLocation '/' ≠ []) →
              ∃ wrong ∈ job.partitions, ∃ exception, env.checkValueCount wrong = .error exception ∧
                ((planned executor operations).perform executor operation).1 = some exception := by
    intro partitioned position list job isExpand here next index member wrong verified located
    obtain ⟨other, inside, exception, refused, thrown⟩ :=
      @expandNextPath_reports env list partitioned (planned executor operations).filePartitions job next index member
        wrong verified located
    refine ⟨other, inside, exception, refused, ?_⟩
    rw [isExpand]
    dsimp only [perform, step]
    rw [here]
    dsimp only
    match list.expandNextPath (planned executor operations).filePartitions, thrown with
    | (.error _, _, _), thrown =>
        cases thrown
        rfl
  have guarded : ReadsGuarded executor (planned executor operations) operation ↔
      ∀ read ∈ valueReads executor (planned executor operations) operation, env.InRange read :=
    ⟨ReadsGuarded.inRange, fun inRange => ⟨inRange, reported⟩⟩
  rw [guarded]
  cases operation with
  | complexFilterPushdown position info filters =>
      dsimp only [valueReads, PushdownCovered]
      cases (planned executor operations).lists[position]? with
      | none => exact iff_of_true nofun nofun
      | some list =>
          cases projected : env.partitionKeyProjections info.columnIndexes with
          | error _ => exact iff_of_true nofun nofun
          | ok projections =>
              by_cases unpartitioned : env.scan.partitionKeys = []
              · simp [unpartitioned]
              · dsimp only
                rw [if_neg unpartitioned, complexFilterReads_inRange]
                constructor
                · intro covered other others _ same sameToo
                  cases same
                  cases sameToo
                  exact covered
                · intro covered
                  exact covered list projections unpartitioned rfl rfl
  | dynamicFilterPushdown position columnIndexes filters =>
      dsimp only [valueReads, PushdownCovered]
      cases (planned executor operations).lists[position]? with
      | none => exact iff_of_true nofun nofun
      | some list =>
          cases collected : filters.mapM (env.keyFilter columnIndexes) with
          | error _ => exact iff_of_true nofun nofun
          | ok keyFilters =>
              by_cases unpartitioned : env.scan.partitionKeys = []
              · simp [unpartitioned]
              · dsimp only
                rw [if_neg unpartitioned, dynamicFilterReads_inRange]
                constructor
                · intro covered other others _ same sameToo
                  cases same
                  cases sameToo
                  exact covered
                · intro covered
                  exact covered list keyFilters unpartitioned rfl rfl
  | hivePartitionStatistics position input =>
      apply iff_of_true _ trivial
      intro read member
      dsimp only [valueReads] at member
      split at member
      · exact statisticsReads_inRange member
      · cases member
  | listSampleDirectory | expandNextPath | copy => exact iff_of_true nofun trivial
  | finalizeBind position file localNames virtualColumn columnIndexes =>
      apply iff_of_true _ trivial
      intro read member
      dsimp only [valueReads] at member
      split at member
      · cases member
      · rename_i index found
        apply finalizeBindReads_inRange _ member
        intro partitioned
        have counted := @planned_counted _ _ _ executor env partitioned operations
        obtain ⟨listed, here, known⟩ := Option.bind_eq_some_iff.mp found
        obtain ⟨list, place, inside⟩ := Option.bind_eq_some_iff.mp here
        obtain ⟨owner, owned, values⟩ :=
          counted.files list (List.mem_of_getElem? place) listed (List.mem_of_getElem? inside)
        cases (counted.owned _ _ known).symm.trans owned
        exact values

/-- A table of two keys, with a partition registered with one value. -/
def monthsListing : HiveListing where
  scan := {
    tableName := "months", rootLocation := "s3://bucket/months", names := ["id", "year", "month"]
    types := [.varchar, .varchar, .varchar], partitionKeys := ["year", "month"] }
  partitions := [⟨["2024"], "s3://bucket/months/2024", [], [], ∅, []⟩]
  fs := .ofObjects []
  db := ⟨fun _ => none⟩
  threads := 1

/-- `month = 2`, over a scan that projects the month alone. -/
def secondMonth : ScanOperation monthsListing Unit (Text ⊕ Bool) (Option (Text ⊕ Bool)) :=
  .complexFilterPushdown 0 { tableIndex := 7, columnIndexes := [⟨.column 2, false, false⟩] }
    [.call () [.columnRef ⟨7, 0, .varchar, 0⟩, .constant (some (.inl ['2']))]]

theorem value_read_beyond : ¬∀ (env : HiveListing)
    (operations : List (ScanOperation env Unit (Text ⊕ Bool) (Option (Text ⊕ Bool)))) operation,
    ReadsGuarded equalsExecutor (planned equalsExecutor operations) operation := by
  intro always
  have guarded := (always monthsListing [] secondMonth).inRange (⟨0, by decide⟩, 1) (by decide +kernel)
  exact absurd guarded (by decide +kernel)

end HiveScanState

end DuckGlue
