import DuckGlue.Lib.KeyedCache
import DuckGlue.Planning.TableSample

/-! # One sample for the scans of a query

A query keeps the sample of a table under the table's name, and a plan copied in the query
binds its scans again from the partitions they read. A sample has the sizes of partitions
by their indexes in the scan that measured it.
-/

namespace DuckGlue

open StringUtil HiveMultiFileList

/-- What a query plans with. -/
structure QueryContext where
  fs : FileSystem
  db : DuckDB
  threads : ℕ
  threshold : Option ℕ := none
  /-- `GetTablePartitions`: the partitions Glue registers, fetched once for each table. -/
  getTablePartitions : Text → List GluePartitionInfo
  /-- The tables of the attached Glue catalogs, by catalog, database and name. -/
  getEntry : Text → Text → Text → Option GlueTable
  rowsInFile : HiveScanInfo → OpenFileInfo → Except Exception (Option ℕ)

/-- A scan of a query, with its lists. -/
structure HiveScan where
  env : HiveListing
  trace : HiveScanState.Trace env
  state : HiveScanState env
  run : HiveScanState.Run (.start none) trace state

/-- What `HiveScanSerialize` writes. -/
structure SerializedScan where
  location : Text
  partitions : List (List Text)
  partitionLocations : List Text
  format : HiveFileFormat
  partitionKeys : List Text
  columns : List Text
  columnTypes : List LogicalType
  csvOptions : HiveCSVOptions
  jsonOptions : HiveJSONOptions
  catalog : Text
  database : Text
  table : Text

namespace HiveScan

def bind (env : HiveListing) : HiveScan := ⟨env, [], .start none, .start⟩

def operate (scan : HiveScan) (operation : ListOperation scan.env) : HiveScan :=
  ⟨scan.env, scan.trace ++ [(operation, (scan.state.step operation).1)], (scan.state.step operation).2,
    .step operation scan.run⟩

/-- `HiveScanSerialize`: the partitions a list of the scan reads, by value. -/
def serialize (scan : HiveScan) (list : HiveMultiFileList scan.env) : SerializedScan :=
  let info := scan.env.scan
  { location := info.rootLocation
    partitions := list.indexes.map fun index => (scan.env.partition index).values
    partitionLocations := list.indexes.map fun index => (scan.env.partition index).location
    format := info.fileFormat
    partitionKeys := info.partitionKeys
    columns := info.names
    columnTypes := info.types
    csvOptions := info.csvOptions
    jsonOptions := info.jsonOptions
    -- the Glue table of a table's scan, empty for a hive_scan() call
    catalog := if info.table.isSome then info.catalogName else []
    database := if info.table.isSome then info.databaseName else []
    table := if info.table.isSome then info.tableName else [] }

end HiveScan

namespace QueryContext

variable (context : QueryContext)

/-- `TableKey` -/
def tableKey (info : HiveScanInfo) : Text :=
  info.catalogName ++ "\x1f" ++ info.databaseName ++ "\x1f" ++ info.tableName

/-- What the lists of a scan with these partitions look at. -/
def listing (info : HiveScanInfo) (partitions : List GluePartitionInfo) : HiveListing :=
  { scan := info, partitions, fs := context.fs, db := context.db, threads := context.threads
    threshold := context.threshold }

/-- The scan of a table. -/
def bindTable (info : HiveScanInfo) : HiveScan :=
  let partitions :=
    if info.partitionKeys = [] || info.catalogName = [] then [] else context.getTablePartitions (tableKey info)
  .bind (context.listing info partitions)

/-- A `hive_scan` call, of the partitions it is given. -/
def hiveScan (info : HiveScanInfo) (partitions : List GluePartitionInfo) : HiveScan :=
  .bind (context.listing
    { info with catalogName := [], databaseName := [], tableName := info.rootLocation, table := none } partitions)

/-- `RestoreScanTable`: the table, while the catalog holds it as the scan read it. -/
def restoreScanTable (info : HiveScanInfo) (catalogName databaseName tableName : Text) : HiveScanInfo :=
  if catalogName = [] || databaseName = [] || tableName = [] then info
  else match context.getEntry catalogName databaseName tableName with
    | none => info
    | some table =>
        if table.tableInfo.location ≠ info.rootLocation || table.columns.length ≠ info.names.length ||
            !LogicalType.sameFields table.columns (info.names.zip info.types) then info
        else { info with catalogName, databaseName, tableName, table := some table }

/-- `HiveScanDeserialize`: the partitions it holds are the ones the plan reads. -/
def deserialize (serialized : SerializedScan) : HiveScan :=
  let info : HiveScanInfo :=
    { tableName := serialized.location
      rootLocation := serialized.location
      names := serialized.columns
      types := serialized.columnTypes
      fileFormat := serialized.format
      csvOptions := serialized.csvOptions
      jsonOptions := serialized.jsonOptions
      partitionKeys := serialized.partitionKeys }
  let partitions := List.zipWith (fun values location => { values, location : GluePartitionInfo })
    serialized.partitions serialized.partitionLocations
  .bind (context.listing (context.restoreScanTable info serialized.catalog serialized.database serialized.table)
    partitions)

end QueryContext

namespace AskingScan

/-- What `SampleTable` asks the query's cache by. -/
def sampleKey (scan : AskingScan) : Text := scan.env.scan.catalogName ++ "." ++ scan.env.scan.describe

/-- A sample, with the scan that measured it. -/
def sampleTable (rowsInFile : HiveScanInfo → OpenFileInfo → Except Exception (Option ℕ)) (scan : AskingScan) :
    Except Exception (AskingScan × HiveTableSample) :=
  .ok (scan, scan.measureTable rowsInFile)

end AskingScan

/-- A list of a scan, asked for its cardinality. -/
def HiveScan.asking (scan : HiveScan) (list : HiveMultiFileList scan.env) (available : ℕ) : AskingScan :=
  ⟨scan.env, list, scan.state.filePartitions, available,
    fun partitioned => (HiveScanState.run_kept partitioned (by simp) scan.run).owned⟩

/-- A query while it is planned. -/
structure HiveQuery where
  scans : List HiveScan := []
  samples : List (Text × (AskingScan × HiveTableSample)) := []
  /-- The scans that asked for a sample, with what they were given. -/
  answers : List (AskingScan × Except Exception (AskingScan × HiveTableSample)) := []

inductive QueryOperation where
  | bindTable (info : HiveScanInfo)
  | hiveScan (info : HiveScanInfo) (partitions : List GluePartitionInfo)
  /-- A list of a scan is expanded, sampled, copied or pruned. -/
  | operate (scan : ℕ) (operation : (env : HiveListing) → ListOperation env)
  /-- A plan is copied with the scan, which reads one of its lists. -/
  | copyPlan (scan list : ℕ)
  | cardinality (scan list available : ℕ)

namespace HiveQuery

variable (context : QueryContext)

/-- `HiveScanCardinality` for one list of a scan, as far as the query's cache goes. -/
def askCardinality (query : HiveQuery) (position : ℕ) (scan : HiveScan) (place available : ℕ) : HiveQuery :=
  match scan.state.lists[place]? with
  | none => query
  | some list =>
      let asking := scan.asking list available
      if asking.asks then
        let (answer, samples) :=
          KeyedCache.ask AskingScan.sampleKey (AskingScan.sampleTable context.rowsInFile) query.samples asking
        let measures := (KeyedCache.find query.samples asking.sampleKey).isNone && scan.env.scan.fileFormat ≠ .avro
        { scans :=
            if measures then query.scans.set position (scan.operate (.listSampleDirectory place available))
            else query.scans
          samples
          answers := query.answers ++ [(asking, answer)] }
      else query

def step (query : HiveQuery) : QueryOperation → HiveQuery
  | .bindTable info => { query with scans := query.scans ++ [context.bindTable info] }
  | .hiveScan info partitions => { query with scans := query.scans ++ [context.hiveScan info partitions] }
  | .operate position operation =>
      match query.scans[position]? with
      | none => query
      | some scan => { query with scans := query.scans.set position (scan.operate (operation scan.env)) }
  | .copyPlan position place =>
      match query.scans[position]? with
      | none => query
      | some scan =>
          match scan.state.lists[place]? with
          | none => query
          | some list => { query with scans := query.scans ++ [context.deserialize (scan.serialize list)] }
  | .cardinality position place available =>
      match query.scans[position]? with
      | none => query
      | some scan => query.askCardinality context position scan place available

/-- A query from its start. -/
def plan (operations : List QueryOperation) : HiveQuery := operations.foldl (step context) {}

/-- The scans that asked for a sample, in order. -/
def asked (query : HiveQuery) : List AskingScan := query.answers.map (·.1)

end HiveQuery

namespace AskingScan

/-- Two scans agree on the partition of each index a sample has a size of. -/
def AgreesWith (scan other : AskingScan) (sample : HiveTableSample) : Prop :=
  ∀ index size, sample.partitionSizes.lookup index = some size → ∀ a b,
    scan.env.partitions[index]? = some a → other.env.partitions[index]? = some b → SamePartition a b

/-- A scan counts every partition it reads with what the sample's scan listed of it. -/
def CountsOwn (scan measured : AskingScan) (sample : HiveTableSample) : Prop :=
  ∀ index ∈ scan.list.indexes, scan.countedSize sample index = measured.sizeOf (scan.env.partition index)

/-- A scan has the partitions whose files another one lists at the indexes they have there,
as far as it has these partitions and indexes. -/
structure AlignedWith (scan measured : AskingScan) : Prop where
  same : ∀ index : measured.env.Index, measured.Lists index → ∀ partition,
    scan.env.partitions[index.val]? = some partition → SamePartition (measured.env.partition index) partition
  place : ∀ index ∈ scan.list.indexes, ∀ other : measured.env.Index, measured.Lists other →
    SamePartition (measured.env.partition other) (scan.env.partition index) → other.val = index.val

end AskingScan

namespace HiveQuery

/-- Scans that were given one sample agree on its partitions and count them with their own
files and bytes. -/
def SharesSamples (query : HiveQuery) : Prop :=
  ∀ scan other given, (scan, .ok given) ∈ query.answers → (other, .ok given) ∈ query.answers →
    scan.AgreesWith other given.2 ∧ scan.CountsOwn given.1 given.2

/-- Every scan that asked is aligned with the first one that asked by its key. -/
def Aligned (query : HiveQuery) : Prop :=
  ∀ scan ∈ query.asked, ∀ measured, (query.asked.find? fun other => other.sampleKey = scan.sampleKey) = some measured →
    scan.AlignedWith measured

section Run

variable {context : QueryContext} {query : HiveQuery}

/-- The query's cache serves the scans that ask. -/
abbrev ServedBy (context : QueryContext) (query : HiveQuery) : Prop :=
  KeyedCache.Served AskingScan.sampleKey (AskingScan.sampleTable context.rowsInFile) query.answers query.samples

theorem askCardinality_served (served : query.ServedBy context) (position : ℕ) (scan : HiveScan) (place available : ℕ) :
    (query.askCardinality context position scan place available).ServedBy context := by
  unfold askCardinality
  cases scan.state.lists[place]? with
  | none => exact served
  | some list =>
      dsimp only
      by_cases asks : (scan.asking list available).asks = true
      · rw [if_pos asks]
        exact served.ask _
      · rw [if_neg asks]
        exact served

theorem step_served (served : query.ServedBy context) (operation : QueryOperation) :
    (query.step context operation).ServedBy context := by
  cases operation with
  | bindTable | hiveScan => exact served
  | operate position operation =>
      dsimp only [step]
      cases query.scans[position]? <;> exact served
  | copyPlan position place =>
      dsimp only [step]
      cases query.scans[position]? with
      | none => exact served
      | some scan =>
          dsimp only
          cases scan.state.lists[place]? <;> exact served
  | cardinality position place available =>
      dsimp only [step]
      cases query.scans[position]? with
      | none => exact served
      | some scan => exact askCardinality_served served position scan place available

theorem plan_served (context : QueryContext) (operations : List QueryOperation) :
    (plan context operations).ServedBy context := by
  unfold plan
  have steps : ∀ query : HiveQuery, query.ServedBy context → (operations.foldl (step context) query).ServedBy context := by
    induction operations with
    | nil => exact fun _ served => served
    | cons operation operations ih => exact fun query served => ih _ (step_served served operation)
  exact steps {} .nil

/-- What a scan is given was measured by the first one that asked by its key. -/
theorem ServedBy.first (served : query.ServedBy context) {scan : AskingScan} {given : AskingScan × HiveTableSample}
    (answered : (scan, .ok given) ∈ query.answers) :
    (query.asked.find? fun other => other.sampleKey = scan.sampleKey) = some given.1 ∧
      given.2 = given.1.measureTable context.rowsInFile := by
  have kept := served.find_answered answered
  rw [served.first_of_key fun request => ⟨_, rfl⟩] at kept
  obtain ⟨measured, first, made⟩ := Option.bind_eq_some_iff.mp kept
  cases made
  exact ⟨first, rfl⟩

theorem ServedBy.exists_answer (served : query.ServedBy context) {scan : AskingScan} (asked : scan ∈ query.asked) :
    ∃ given, (scan, .ok given) ∈ query.answers :=
  served.answered asked rfl

/-- A scan that got what another one measured is aligned with it. -/
theorem alignedWith_of_shares {scan measured : AskingScan} {sample : HiveTableSample}
    (taken : sample = measured.measureTable context.rowsInFile) (agrees : measured.AgreesWith scan sample)
    (counts : scan.CountsOwn measured sample) : scan.AlignedWith measured := by
  subst taken
  have here : ∀ index : measured.env.Index, measured.env.partitions[index.val]? = some (measured.env.partition index) :=
    fun index => List.getElem?_eq_getElem index.isLt
  have same : ∀ index : measured.env.Index, measured.Lists index → ∀ partition,
      scan.env.partitions[index.val]? = some partition → SamePartition (measured.env.partition index) partition := by
    intro index lists partition there
    obtain ⟨size, sized⟩ := AskingScan.lookup_of_lists lists
    exact agrees index.val size sized _ _ (here index) there
  refine ⟨same, ?_⟩
  intro index read other lists equal
  obtain ⟨size, total⟩ := AskingScan.sizeOf_of_lists lists equal
  have counted := counts index read
  rw [total] at counted
  obtain ⟨own, place, listsOwn⟩ := AskingScan.lists_of_lookup counted
  have there : scan.env.partitions[own.val]? = some (scan.env.partition index) := by
    rw [place]
    exact List.getElem?_eq_getElem index.isLt
  have ownSame := same own listsOwn _ there
  have one := AskingScan.eq_of_lists lists listsOwn ⟨equal.1.trans ownSame.1.symm, equal.2.trans ownSame.2.symm⟩
  rw [one, place]

/-- A scan aligned with the one that measured counts each partition with its own size. -/
theorem countsOwn_of_aligned {scan measured : AskingScan} (aligned : scan.AlignedWith measured) :
    scan.CountsOwn measured (measured.measureTable context.rowsInFile) := by
  intro index read
  unfold AskingScan.countedSize AskingScan.sizeOf
  rw [AskingScan.lookup_partitionSizes]
  congr 2
  apply List.filter_congr
  intro file listed
  obtain ⟨file, owner⟩ := file
  cases owner with
  | none => rfl
  | some owner =>
      have lists : measured.Lists owner := ⟨file, listed⟩
      apply decide_eq_decide.mpr
      constructor
      · intro place
        apply aligned.same owner lists
        rw [place]
        exact List.getElem?_eq_getElem index.isLt
      · exact aligned.place index read owner lists

theorem agreesWith_of_aligned {scan other measured : AskingScan} (aligned : scan.AlignedWith measured)
    (alignedOther : other.AlignedWith measured) :
    scan.AgreesWith other (measured.measureTable context.rowsInFile) := by
  intro position size sized a b here there
  obtain ⟨index, place, lists⟩ := AskingScan.lists_of_lookup sized
  subst place
  have left := aligned.same index lists a here
  have right := alignedOther.same index lists b there
  exact ⟨left.1.symm.trans right.1, left.2.symm.trans right.2⟩

/-- Scans of the same partitions in the same order are aligned, where Glue registers a
partition for each of its values once. -/
theorem alignedWith_of_same {scan measured : AskingScan}
    (same : scan.env.partitions.map (fun one => (one.values, one.location)) =
      measured.env.partitions.map fun one => (one.values, one.location))
    (distinct : (measured.env.partitions.map (·.values)).Nodup) : scan.AlignedWith measured := by
  have identity : ∀ (index : measured.env.Index) partition, scan.env.partitions[index.val]? = some partition →
      SamePartition (measured.env.partition index) partition := by
    intro index partition here
    have mapped := congrArg (·[index.val]?) same
    simp only [List.getElem?_map, here, List.getElem?_eq_getElem index.isLt, Option.map_some, Option.some.injEq,
      Prod.mk.injEq] at mapped
    exact ⟨mapped.1.symm, mapped.2.symm⟩
  refine ⟨fun index _ partition here => identity index partition here, ?_⟩
  intro index _ other _ equal
  have length : scan.env.partitions.length = measured.env.partitions.length := by
    simpa using congrArg List.length same
  have inside : index.val < measured.env.partitions.length := length ▸ index.isLt
  have there := identity ⟨index.val, inside⟩ (scan.env.partition index) (List.getElem?_eq_getElem index.isLt)
  have values : (measured.env.partition other).values = (measured.env.partition ⟨index.val, inside⟩).values :=
    equal.1.trans there.1.symm
  have left : other.val < (measured.env.partitions.map (·.values)).length := by simp
  have right : index.val < (measured.env.partitions.map (·.values)).length := by simpa using inside
  apply (@List.Nodup.getElem_inj_iff _ _ distinct _ left _ right).mp
  rw [List.getElem_map, List.getElem_map]
  exact values

/-- The scans of a query share samples rightly exactly when each of them has the partitions
that the first scan of its key listed at the same indexes. -/
theorem sharesSamples_iff (context : QueryContext) (operations : List QueryOperation) :
    (plan context operations).SharesSamples ↔ (plan context operations).Aligned := by
  have served := plan_served context operations
  constructor
  · intro shares scan asked measured first
    obtain ⟨given, answered⟩ := served.exists_answer asked
    obtain ⟨firstGiven, taken⟩ := served.first answered
    cases firstGiven.symm.trans first
    have sameKey : given.1.sampleKey = scan.sampleKey := by simpa using List.find?_some first
    obtain ⟨own, answeredOwn⟩ := served.exists_answer (List.mem_of_find?_eq_some first)
    have one : own = given := by
      have left := served.find_answered answeredOwn
      rw [sameKey, served.find_answered answered] at left
      exact (Option.some.inj left).symm
    rw [one] at answeredOwn
    exact alignedWith_of_shares taken (shares _ _ given answeredOwn answered).1 (shares _ _ given answered answeredOwn).2
  · intro aligned scan other given answered answeredOther
    obtain ⟨first, taken⟩ := served.first answered
    obtain ⟨firstOther, -⟩ := served.first answeredOther
    have here := aligned scan (List.mem_map_of_mem answered) given.1 first
    have there := aligned other (List.mem_map_of_mem answeredOther) given.1 firstOther
    rw [taken]
    exact ⟨agreesWith_of_aligned here there, countsOwn_of_aligned here⟩

/-- A scan that counts a partition with what the sample has of another one. -/
def miscounts (answer : AskingScan × Except Exception (AskingScan × HiveTableSample)) : Bool :=
  match answer.2 with
  | .error _ => false
  | .ok given => answer.1.list.indexes.any fun index =>
      answer.1.countedSize given.2 index ≠ given.1.sizeOf (answer.1.env.partition index)

theorem SharesSamples.not_miscounts (shares : query.SharesSamples) : query.answers.any miscounts = false := by
  rw [List.any_eq_false]
  intro answer member wrong
  obtain ⟨scan, answer⟩ := answer
  cases answer with
  | error _ => cases wrong
  | ok given =>
      obtain ⟨index, read, other⟩ := List.any_eq_true.mp wrong
      exact of_decide_eq_true other ((shares scan scan given member member).2 index read)

end Run

/-- A table of two days, of which the second is much larger. -/
def dayTable : GlueTable where
  tableInfo := { name := "events", schemaName := "sales", location := "s3://bucket/events" }
  columns := [("id", .integer), ("day", .varchar)]

def dayContext : QueryContext where
  fs := .ofObjects [⟨"s3://bucket/events/day=1/a.parquet", some 10⟩, ⟨"s3://bucket/events/day=2/b.parquet", some 20000⟩]
  db := ⟨fun _ => none⟩
  threads := 1
  getTablePartitions _ := [⟨["1".toList], "s3://bucket/events/day=1", [], [], ∅, []⟩,
    ⟨["2".toList], "s3://bucket/events/day=2", [], [], ∅, []⟩]
  getEntry _ _ _ := some dayTable
  rowsInFile _ _ := .ok (some 1000)

def dayScan : HiveScanInfo where
  catalogName := "lake"
  databaseName := "sales"
  tableName := "events"
  table := some dayTable
  rootLocation := "s3://bucket/events"
  names := ["id", "day"]
  types := [.integer, .varchar]
  partitionKeys := ["day"]

/-- A plan with a scan of both days, and the copy of a scan that was pruned to the second. -/
def prunedCopy : List QueryOperation :=
  [.bindTable dayScan, .bindTable dayScan, .operate 1 fun _ => .prune 0 fun index => index.val ≠ 0, .copyPlan 1 1,
    .cardinality 0 0 2, .cardinality 2 0 2]

theorem sample_misplaced : ¬∀ context operations, (plan context operations).SharesSamples := by
  intro always
  have shares := (always dayContext prunedCopy).not_miscounts
  have wrong : (plan dayContext prunedCopy).answers.any miscounts = true := by decide +kernel
  rw [wrong] at shares
  cases shares

end HiveQuery

end DuckGlue
