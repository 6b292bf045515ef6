import DuckGlue.Planning.HiveScanToSQL

/-! # The exported scan reads the scan's rows

Every column of an exported read gives a row of a file the value the scan gives it, or
fails where the scan fails on it. The files are grouped by partition, each in one read.
What the export leaves out is what the scan refuses when it opens a file.
-/

namespace DuckGlue

open StringUtil SQLExpression Fallible

variable {Value : Type} {env : HiveListing} {bound : BoundHiveScan env} {db : DuckDBFunctions Value}
  {readers : FileReaders Value} {scan : HiveScanInfo}

namespace HiveScanInfo

theorem getPartitionKeyIndex_congr {name other : Text} (same : ciEquals name other = true) :
    scan.getPartitionKeyIndex name = scan.getPartitionKeyIndex other := by
  have key : ∀ key, ciEquals key name = ciEquals key other := by
    intro key
    rw [Bool.eq_iff_iff, ciEquals_iff, ciEquals_iff, ciEquals_iff.mp same]
  unfold getPartitionKeyIndex
  rw [funext key]

/-- A constant is converted to no other expression. -/
theorem initializeColumn_constant (type : LogicalType) (value : Option Value) :
    scan.initializeColumn db (.constant type value) = .constant type value := by
  have unescaped : unescapeField db scan.csvOptions (.constant type value) = .constant type value :=
    if_pos (Bool.or_true _)
  unfold initializeColumn
  split_ifs
  · rfl
  · rfl
  · unfold convertField
    rw [unescaped, ite_self]
    dsimp only
    split
    all_goals rfl
  · rfl

/-- The columns a text reader is given are the data columns of the scan. -/
theorem find_columns {settings : ReaderSettings} (given : scan.fileFormat = .csv ∨ scan.fileFormat = .json) :
    (scan.readerParameters settings).find "columns" = some (.columns scan.dataColumns) := by
  unfold readerParameters
  rcases given with csv | json
  · rw [csv]
    rfl
  · rw [json]
    rfl

/-- A text reader has a data column with the type it was given. -/
theorem find_dataColumns {name : Text} {own : Text × LogicalType} (data : scan.getPartitionKeyIndex name = none)
    (found : (scan.names.zip scan.types).find? (fun column => ciEquals column.1 name) = some own) :
    (scan.dataColumns.find? fun column => ciEquals column.1 name).map (·.2) =
      some (if scan.csvOptions.serdeFields then .varchar else own.2) := by
  have kept : (fun column : Text × LogicalType =>
      decide ((scan.getPartitionKeyIndex column.1).isNone = true ∧ ciEquals column.1 name = true)) =
        fun column => ciEquals column.1 name := by
    funext column
    cases same : ciEquals column.1 name with
    | false => simp
    | true =>
        rw [getPartitionKeyIndex_congr same, data]
        rfl
  unfold dataColumns
  rw [List.find?_map, List.find?_filter, Function.comp_def]
  dsimp only
  rw [kept, found]
  rfl

end HiveScanInfo

namespace BoundHiveScan

theorem map_fst_columns (bound : BoundHiveScan env) : bound.columns.map (·.1) = env.scan.names :=
  List.map_fst_zip (by rw [bound.typed])

/-- No two columns of the scan have one name. -/
theorem distinct_columns (bound : BoundHiveScan env) :
    bound.columns.Pairwise fun column other => ciEquals column.1 other.1 = false := by
  have names := bound.distinct
  rw [← bound.map_fst_columns, List.pairwise_map] at names
  exact names

/-- A column is the first of its name. -/
theorem find_column {columns : List (Text × LogicalType)} {column : Text × LogicalType} {name : Text}
    (distinct : columns.Pairwise fun column other => ciEquals column.1 other.1 = false) (member : column ∈ columns)
    (same : ciEquals column.1 name = true) : (columns.find? fun other => ciEquals other.1 name) = some column := by
  induction columns with
  | nil => cases member
  | cons first columns ih =>
      obtain ⟨apart, distinct⟩ := List.pairwise_cons.mp distinct
      cases member with
      | head => rw [List.find?_cons, same]
      | tail _ member =>
          have other : ciEquals first.1 name = false := by
            rw [← apart column member, Bool.eq_iff_iff, ciEquals_iff, ciEquals_iff, ciEquals_iff.mp same]
          rw [List.find?_cons, other]
          exact ih distinct member

/-- The type a column of the scan has in the table. -/
theorem table_type {column : Text × LogicalType} (tableType : env.scan.scanTypeIsTableType column = true) :
    ∃ own, (env.scan.names.zip env.scan.types).find? (fun own => ciEquals own.1 column.1) = some own ∧
      own.2.same column.2 = true := by
  unfold HiveScanInfo.scanTypeIsTableType at tableType
  cases found : (env.scan.names.zip env.scan.types).find? fun own => ciEquals own.1 column.1 with
  | none =>
      rw [found] at tableType
      cases tableType
  | some own =>
      rw [found] at tableType
      exact ⟨own, rfl, tableType⟩

/-- The type a text reader has a data column of the scan with. -/
theorem columnType_openFile (bound : BoundHiveScan env) (readers : FileReaders Value) (path : Text)
    {column : Text × LogicalType}
    (given : env.scan.fileFormat = .csv ∨ env.scan.fileFormat = .json)
    (data : env.scan.getPartitionKeyIndex column.1 = none) (tableType : env.scan.scanTypeIsTableType column = true) :
    ∃ own : LogicalType, own.same column.2 = true ∧ (bound.openFile readers path).columnType column.1 =
      some (if env.scan.csvOptions.serdeFields then .varchar else own) := by
  obtain ⟨own, found, same⟩ := table_type tableType
  refine ⟨own.2, same, ?_⟩
  unfold openFile DataFile.columnType
  rw [readers.columns_given _ _ path _ (HiveScanInfo.find_columns given)]
  exact HiveScanInfo.find_dataColumns data found

/-- What is read by no conversion of fields. -/
theorem initializeColumn_plain (bound : BoundHiveScan env) {expr : SQLExpression Value}
    (binary : ¬(env.scan.fileFormat = .parquet ∧ env.scan.hasBinaryColumn = true))
    (plain : ¬env.scan.fileFormat = .csv ∨ env.scan.csvOptions.serdeFields = false) :
    env.scan.initializeColumn db expr = expr := by
  have fields : env.scan.csvOptions.serdeFields = false := by
    rcases plain with format | serde
    · exact Bool.eq_false_iff.mpr fun serde => format (bound.textual serde)
    · exact serde
  unfold HiveScanInfo.initializeColumn
  rw [fields, if_neg Bool.false_ne_true]
  split_ifs with parquet blob
  · exact absurd ⟨parquet, blob⟩ binary
  · rfl
  · rfl

/-- A data column of the exported read is what the scan makes of the column. -/
theorem evaluate_readerColumn {call : HiveReaderCall Value} {column : Text × LogicalType} {path : Text}
    {row : SQLRow Value} (exported : bound.hiveScanGetReaderCall db = some call) (member : column ∈ bound.columns)
    (data : env.scan.getPartitionKeyIndex column.1 = none) :
    (readerColumn db env.scan column.1 column.2).evaluate db (call.column db (bound.openFile readers path) row) =
      (env.scan.initializeColumn db
        (mapColumn ((bound.openFile readers path).columnType column.1) column.1 column.2)).evaluate db
          ((bound.openFile readers path).cell row) := by
  unfold hiveScanGetReaderCall at exported
  split_ifs at exported with binary typed schema
  · -- the schema parameter maps the columns of every file
    cases exported
    have plain : ¬(env.scan.fileFormat = .csv) := by
      rcases schema with format | format
      · simp [format]
      · simp [format]
    rw [bound.initializeColumn_plain binary (.inl plain), readerColumn, if_pos (.inl plain)]
    have inSchema : column ∈ bound.dataColumnsSchema := List.mem_filter.mpr ⟨member, by rw [data]; rfl⟩
    have distinct : bound.dataColumnsSchema.Pairwise fun column other => ciEquals column.1 other.1 = false :=
      bound.distinct_columns.filter _
    dsimp only [evaluate, HiveReaderCall.column]
    rw [find_column distinct inSchema (ciEquals_refl _)]
  · cases exported
    have given : env.scan.fileFormat = .csv ∨ env.scan.fileFormat = .json := by
      cases format : env.scan.fileFormat with
      | csv => exact .inl rfl
      | json => exact .inr rfl
      | parquet => exact absurd (.inl format) schema
      | avro => exact absurd (.inr format) schema
    have tableType : env.scan.scanTypeIsTableType column = true := by
      simp only [Bool.not_eq_true', Bool.not_eq_false] at typed
      exact List.all_eq_true.mp typed column member
    obtain ⟨own, same, there⟩ := columnType_openFile bound readers path given data tableType
    rw [there]
    cases serde : env.scan.csvOptions.serdeFields with
    | true =>
        have csv := bound.textual serde
        have converted : env.scan.initializeColumn db (mapColumn (some .varchar) column.1 column.2) =
            convertField db env.scan.csvOptions (mapColumn (some .varchar) column.1 column.2) := by
          rw [HiveScanInfo.initializeColumn, csv, if_neg (by decide), serde, if_pos rfl]
        rw [if_pos rfl, converted, evaluate_convertField csv serde]
        rfl
    | false =>
        rw [if_neg Bool.false_ne_true, bound.initializeColumn_plain binary (.inr serde), readerColumn, if_pos (.inr serde),
          mapColumn, if_pos same]
        rfl

/-! ## The values of a partition -/

/-- The cast the caller does is the one of the scan. -/
theorem evaluate_partitionExpression {column : Text → SQLResult Value} (key text : Text) (type : LogicalType) :
    (partitionExpression db text type).evaluate db column =
      (GlueTypes.partitionValue db.toValueCasts key text type).mapError fun _ => () := by
  unfold partitionExpression GlueTypes.partitionValue
  split_ifs
  · rfl
  · rfl
  · have value : (SQLExpression.cast type false (SQLExpression.text db text)).evaluate db column =
        SQLResult.ofOption (db.cast type (db.ofText text)) := rfl
    rw [value, db.cast_ofText]
    cases db.tryCastAs text type with
    | none => rfl
    | some cast => rfl

/-- Every key adds one value at most; where none adds none, each value is of its key. -/
theorem partitionExpressions_values {pairs : List (Text × Text)} {values : List (Text × SQLExpression Value)}
    (made : bound.partitionExpressions db pairs = some values) : values.length ≤ pairs.length ∧
      (values.length = pairs.length → List.Forall₂ (fun pair value => ∃ column,
        (bound.columns.find? fun column => ciEquals column.1 pair.1) = some column ∧
          value = (column.1, partitionExpression db pair.2 column.2)) pairs values) := by
  induction pairs generalizing values with
  | nil =>
      cases made
      exact ⟨Nat.le_refl _, fun _ => .nil⟩
  | cons pair pairs ih =>
      obtain ⟨key, text⟩ := pair
      rw [partitionExpressions] at made
      cases found : bound.columns.find? fun column => ciEquals column.1 key with
      | none =>
          rw [found] at made
          obtain ⟨shorter, _⟩ := ih made
          simp only [List.length_cons]
          exact ⟨by omega, fun same => by omega⟩
      | some column =>
          rw [found] at made
          dsimp only at made
          split_ifs at made
          obtain ⟨rest, later, rfl⟩ := Option.map_eq_some_iff.mp made
          obtain ⟨shorter, aligned⟩ := ih later
          simp only [List.length_cons]
          refine ⟨by omega, fun same => .cons ⟨column, found, rfl⟩ (aligned (by omega))⟩

/-- The values of a listed file's partition, each for its key's column. -/
theorem hiveScanGetFilePartitionValues_value {path : Text} {index : env.Index}
    {values : List (Text × SQLExpression Value)} (listed : bound.filePartitions.lookup path = some index)
    (given : bound.hiveScanGetFilePartitionValues db readers path = some values) {column : Text × LogicalType}
    (member : column ∈ bound.columns) {key : ℕ} (keyed : env.scan.getPartitionKeyIndex column.1 = some key) :
    ∃ text, (env.partition index).values[key]? = some text ∧
      values[key]? = some (column.1, partitionExpression db text column.2) := by
  unfold hiveScanGetFilePartitionValues at given
  split_ifs at given
  rw [listed] at given
  dsimp only [Option.some_or, Option.bind_some] at given
  cases made : bound.partitionExpressions db (env.scan.partitionKeys.zip (env.partition index).values) with
  | none =>
      rw [made] at given
      cases given
  | some all =>
      rw [made] at given
      dsimp only at given
      split_ifs at given with complete
      cases given
      obtain ⟨shorter, aligned⟩ := partitionExpressions_values made
      have whole : values.length = (env.scan.partitionKeys.zip (env.partition index).values).length := by
        rw [List.length_zip] at shorter ⊢
        omega
      obtain ⟨inKeys, same, _⟩ := List.findIdx?_eq_some_iff_getElem.mp keyed
      have inside : key < values.length := by omega
      have pairAt : key < (env.scan.partitionKeys.zip (env.partition index).values).length := by omega
      obtain ⟨other, found, value⟩ := (aligned whole).get pairAt inside
      have named : ciEquals column.1 env.scan.partitionKeys[key] = true := ciEquals_comm same
      simp only [List.get_eq_getElem, List.getElem_zip] at found value
      rw [find_column bound.distinct_columns member named] at found
      cases found
      rw [List.length_zip] at pairAt
      refine ⟨(env.partition index).values[key], List.getElem?_eq_getElem _, ?_⟩
      rw [List.getElem?_eq_getElem inside, value]

end BoundHiveScan

namespace HiveScanInfo

/-- The select list has every column in the order of the scan. -/
theorem selectList_eq {values : List (Text × SQLExpression Value)} {data select : Text × LogicalType → SQLExpression Value}
    {columns : List (Text × LogicalType)}
    (keyed : ∀ column ∈ columns, ∀ key, scan.getPartitionKeyIndex column.1 = some key →
      values[key]? = some (column.1, select column))
    (plain : ∀ column ∈ columns, scan.getPartitionKeyIndex column.1 = none → select column = data column) :
    scan.selectList values (columns.map (·.1))
        ((columns.filter fun column => (scan.getPartitionKeyIndex column.1).isNone).map fun column =>
          (column.1, data column)) =
      columns.map fun column => (column.1, select column) := by
  induction columns with
  | nil => rfl
  | cons column columns ih =>
      obtain ⟨keyedHere, keyedLater⟩ := List.forall_mem_cons.mp keyed
      obtain ⟨plainHere, plainLater⟩ := List.forall_mem_cons.mp plain
      rw [List.map_cons, List.map_cons, selectList, List.filter_cons, ← ih keyedLater plainLater]
      cases found : scan.getPartitionKeyIndex column.1 with
      | none =>
          dsimp only [Option.isNone_none]
          rw [if_pos rfl, plainHere found]
          rfl
      | some key =>
          dsimp only [Option.isNone_some]
          rw [if_neg Bool.false_ne_true, keyedHere key found]
          rfl

end HiveScanInfo

/-! ## The reads -/

/-- What a read selects for a column of the scan. -/
def HiveListing.exportedColumn (env : HiveListing) (db : DuckDBFunctions Value) (partition : Option env.Index)
    (column : Text × LogicalType) : SQLExpression Value :=
  match partition, env.scan.getPartitionKeyIndex column.1 with
  | some index, some key => BoundHiveScan.partitionExpression db ((env.partition index).values.getD key []) column.2
  | _, _ => readerColumn db env.scan column.1 column.2

theorem HiveListing.exportedColumn_key {index : env.Index} {column : Text × LogicalType} {key : ℕ} {text : Text}
    (keyed : env.scan.getPartitionKeyIndex column.1 = some key) (there : (env.partition index).values[key]? = some text) :
    env.exportedColumn db (some index) column = BoundHiveScan.partitionExpression db text column.2 := by
  unfold exportedColumn
  rw [keyed]
  dsimp only
  rw [List.getD_eq_getElem?_getD, there]
  rfl

theorem HiveListing.exportedColumn_plain {partition : Option env.Index} {column : Text × LogicalType}
    (plain : env.scan.getPartitionKeyIndex column.1 = none) :
    env.exportedColumn db partition column = readerColumn db env.scan column.1 column.2 := by
  unfold exportedColumn
  rw [plain]
  cases partition <;> rfl

namespace BoundHiveScan

open HiveListing

/-- A read is of files of one partition, and has its values. -/
structure ReadOfPartition (bound : BoundHiveScan env) (db : DuckDBFunctions Value) (call : HiveReaderCall Value)
    (read : SQLRead Value) (partition : Option env.Index) : Prop where
  call : read.call = call
  select : read.select = bound.columns.map fun column => (column.1, env.exportedColumn db partition column)
  files : ∀ path ∈ read.files, bound.partitionOf path = partition
  known : env.scan.partitionKeys ≠ [] → partition.isSome = true
  values : ∀ index, partition = some index → ∀ column ∈ bound.columns, ∀ key,
    env.scan.getPartitionKeyIndex column.1 = some key → ∃ text, (env.partition index).values[key]? = some text

theorem getPartitionKeyIndex_none (unpartitioned : env.scan.partitionKeys = []) (name : Text) :
    env.scan.getPartitionKeyIndex name = none := by
  rw [HiveScanInfo.getPartitionKeyIndex, unpartitioned]
  rfl

variable {exporter : SQLExporter Value} {call : HiveReaderCall Value} {read : SQLRead Value} {files : List Text}

theorem call_columns (exported : bound.hiveScanGetReaderCall db = some call) :
    call.columns = (bound.columns.filter fun column => (env.scan.getPartitionKeyIndex column.1).isNone).map
      fun column => (column.1, readerColumn db env.scan column.1 column.2) := by
  unfold hiveScanGetReaderCall at exported
  split_ifs at exported
  · cases exported
    rfl
  · cases exported
    rfl

theorem readOf_unpartitioned (exported : bound.hiveScanGetReaderCall db = some call)
    (unpartitioned : env.scan.partitionKeys = []) (made : bound.readOf db readers exporter call files = .ok read) :
    bound.ReadOfPartition db call read none := by
  unfold readOf at made
  rw [if_pos unpartitioned] at made
  dsimp only at made
  split_ifs at made
  cases made
  refine ⟨rfl, ?_, fun path _ => if_pos unpartitioned, fun keys => absurd unpartitioned keys, nofun⟩
  dsimp only
  rw [call_columns exported, ← bound.map_fst_columns]
  apply HiveScanInfo.selectList_eq
  · intro column _ key keyed
    rw [getPartitionKeyIndex_none unpartitioned] at keyed
    cases keyed
  · intro column _ _
    rfl

theorem readOf_partition (exported : bound.hiveScanGetReaderCall db = some call)
    (partitioned : env.scan.partitionKeys ≠ []) {index : env.Index}
    (listed : ∀ path ∈ files, bound.filePartitions.lookup path = some index)
    (made : bound.readOf db readers exporter call files = .ok read) :
    bound.ReadOfPartition db call read (some index) := by
  unfold readOf at made
  rw [if_neg partitioned] at made
  dsimp only at made
  cases found : files.head?.bind (bound.hiveScanGetFilePartitionValues db readers) with
  | none =>
      rw [found] at made
      cases made
  | some values =>
      rw [found] at made
      dsimp only at made
      split_ifs at made
      cases made
      obtain ⟨first, atHead, given⟩ := Option.bind_eq_some_iff.mp found
      have own := listed first (List.mem_of_mem_head? atHead)
      have keyed : ∀ column ∈ bound.columns, ∀ key, env.scan.getPartitionKeyIndex column.1 = some key →
          values[key]? = some (column.1, env.exportedColumn db (some index) column) := by
        intro column member key keyed
        obtain ⟨text, there, value⟩ := hiveScanGetFilePartitionValues_value own given member keyed
        rw [value, exportedColumn_key keyed there]
      have plain : ∀ column ∈ bound.columns, env.scan.getPartitionKeyIndex column.1 = none →
          env.exportedColumn db (some index) column = readerColumn db env.scan column.1 column.2 := by
        intro column _ plain
        exact exportedColumn_plain plain
      refine ⟨rfl, ?_, ?_, fun _ => rfl, ?_⟩
      · dsimp only
        rw [call_columns exported, ← bound.map_fst_columns]
        exact HiveScanInfo.selectList_eq keyed plain
      · intro path member
        rw [partitionOf, if_neg partitioned]
        exact listed path member
      · intro other same column member key keyed
        cases same
        obtain ⟨text, there, _⟩ := hiveScanGetFilePartitionValues_value own given member keyed
        exact ⟨text, there⟩

/-- The groups have every file once, each those of one partition. -/
theorem partitionFiles_groups {groups : List (List Text)} (grouped : bound.partitionFiles = some groups) :
    groups.flatten.Perm (bound.files.map (·.path)) ∧
      ∀ files ∈ groups, env.scan.partitionKeys = [] ∨
        ∃ index, ∀ path ∈ files, bound.filePartitions.lookup path = some index := by
  unfold partitionFiles at grouped
  dsimp only at grouped
  split_ifs at grouped with unpartitioned
  · rw [Grouping.foldl_addTo_zero] at grouped
    cases grouped
    constructor
    · split_ifs with empty
      · rw [empty]
        exact .nil
      · rw [List.flatten_singleton]
    · exact fun _ _ => .inl unpartitioned
  · obtain ⟨grouping, made, rfl⟩ := Option.map_eq_some_iff.mp grouped
    have holds := Grouping.Holds.empty.ofList made
    constructor
    · exact holds.perm
    · intro files member
      obtain ⟨number, there⟩ := List.mem_iff_getElem?.mp member
      exact .inr (holds.oneKey number files there).2

theorem readOf_files (made : bound.readOf db readers exporter call files = .ok read) : read.files = files := by
  unfold readOf at made
  dsimp only at made
  split at made
  · cases made
  · split_ifs at made
    cases made
    rfl

/-- The reads have the files of their groups. -/
theorem files_of_reads {groups : List (List Text)} {reads : List (SQLRead Value)}
    (made : groups.mapM (bound.readOf db readers exporter call) = .ok reads) :
    reads.flatMap (·.files) = groups.flatten := by
  have each := mapM_eq_ok.mp made
  clear made
  induction each with
  | nil => rfl
  | cons here _ ih => rw [List.flatMap_cons, List.flatten_cons, ih, readOf_files here]

/-- The scan is exported as one read of each group. -/
theorem hiveScanToSQL_eq_ok {relation : SQLRelation Value}
    (exported : bound.hiveScanToSQL db readers exporter = .ok relation) :
    ∃ call groups, bound.hiveScanGetReaderCall db = some call ∧ bound.partitionFiles = some groups ∧
      groups.mapM (bound.readOf db readers exporter call) = .ok relation.reads ∧
        (relation = .noRows bound.columns ∨ relation = .unionAll relation.reads) := by
  unfold hiveScanToSQL at exported
  have plain : ¬bound.readsVirtualColumn = true := by
    intro virtual
    rw [if_pos virtual] at exported
    cases exported
  rw [if_neg plain] at exported
  cases called : bound.hiveScanGetReaderCall db with
  | none =>
      rw [called] at exported
      cases exported
  | some call =>
      cases grouped : bound.partitionFiles with
      | none =>
          rw [called, grouped] at exported
          cases exported
      | some groups =>
          rw [called, grouped] at exported
          dsimp only at exported
          obtain ⟨reads, made, exported⟩ := bind_eq_ok.mp exported
          split_ifs at exported with empty
          · cases exported
            rw [List.isEmpty_iff.mp empty] at made
            exact ⟨call, groups, rfl, rfl, made, .inl rfl⟩
          · cases exported
            exact ⟨call, groups, rfl, rfl, made, .inr rfl⟩

/-- Every listed file is in one read, with the values of its partition. -/
theorem hiveScanToSQL_reads {relation : SQLRelation Value}
    (exported : bound.hiveScanToSQL db readers exporter = .ok relation) :
    ∃ call, bound.hiveScanGetReaderCall db = some call ∧
      (relation.reads.flatMap (·.files)).Perm (bound.files.map (·.path)) ∧
        ∀ read ∈ relation.reads, ∃ partition, bound.ReadOfPartition db call read partition := by
  obtain ⟨call, groups, called, grouped, made, _⟩ := hiveScanToSQL_eq_ok exported
  obtain ⟨covered, keyed⟩ := partitionFiles_groups grouped
  refine ⟨call, called, ?_, ?_⟩
  · rw [files_of_reads made]
    exact covered
  · intro read member
    obtain ⟨files, group, here⟩ := mem_of_mapM made member
    by_cases unpartitioned : env.scan.partitionKeys = []
    · exact ⟨none, readOf_unpartitioned called unpartitioned here⟩
    · obtain empty | ⟨index, listed⟩ := keyed files group
      · exact absurd empty unpartitioned
      · exact ⟨some index, readOf_partition called unpartitioned listed here⟩

/-! ## The rows of a file -/

/-- What the scan makes of a row of a file for a column. -/
def scanCell (bound : BoundHiveScan env) (db : DuckDBFunctions Value) (readers : FileReaders Value) (path : Text)
    (row : SQLRow Value) (column : Text × LogicalType) : Except Unit (Option Value) :=
  match env.finalizeColumn db (bound.partitionOf path) (bound.openFile readers path) column with
  | .ok expr => (env.scan.initializeColumn db expr).evaluate db ((bound.openFile readers path).cell row)
  | .error _ => .error ()

/-- What the scan makes of the rows of a file it opens. -/
def cellRows (bound : BoundHiveScan env) (db : DuckDBFunctions Value) (readers : FileReaders Value) (path : Text) :
    Except Unit (List (SQLRow Value)) := do
  let rows ← (bound.openFile readers path).rows
  rows.mapM fun row => bound.columns.mapM (bound.scanCell db readers path row)

theorem finalizeColumn_plain {partition : Option env.Index} {file : DataFile Value} {column : Text × LogicalType}
    (plain : env.scan.getPartitionKeyIndex column.1 = none) : env.finalizeColumn db partition file column =
      .ok (mapColumn (file.columnType column.1) column.1 column.2) := by
  unfold HiveListing.finalizeColumn
  rw [plain]
  cases partition <;> rfl

theorem finalizeColumn_key {index : env.Index} {file : DataFile Value} {column : Text × LogicalType} {key : ℕ}
    {text : Text} (keyed : env.scan.getPartitionKeyIndex column.1 = some key)
    (there : (env.partition index).values[key]? = some text) : env.finalizeColumn db (some index) file column =
      (GlueTypes.partitionValue db.toValueCasts (env.scan.partitionKeys.getD key []) text column.2).map
        (.constant column.2) := by
  unfold HiveListing.finalizeColumn
  rw [keyed]
  dsimp only
  rw [there]
  rfl

theorem openFile_eq (exported : bound.hiveScanGetReaderCall db = some call) (same : read.call = call) (path : Text) :
    read.openFile readers path = bound.openFile readers path := by
  unfold hiveScanGetReaderCall at exported
  split_ifs at exported
  · cases exported
    rw [SQLRead.openFile, same]
    rfl
  · cases exported
    rw [SQLRead.openFile, same]
    rfl

/-- A read gives a row of a file what the scan gives it, in every column. -/
theorem evaluate_exportedColumn {partition : Option env.Index} (exported : bound.hiveScanGetReaderCall db = some call)
    (own : bound.ReadOfPartition db call read partition) {path : Text} (inRead : path ∈ read.files) (row : SQLRow Value)
    {column : Text × LogicalType} (member : column ∈ bound.columns) :
    (env.exportedColumn db partition column).evaluate db (call.column db (bound.openFile readers path) row) =
      bound.scanCell db readers path row column := by
  unfold scanCell
  rw [own.files path inRead]
  cases keyed : env.scan.getPartitionKeyIndex column.1 with
  | none =>
      rw [exportedColumn_plain keyed, finalizeColumn_plain keyed]
      exact evaluate_readerColumn exported member keyed
  | some key =>
      have partitioned : env.scan.partitionKeys ≠ [] := by
        intro unpartitioned
        rw [getPartitionKeyIndex_none unpartitioned] at keyed
        cases keyed
      obtain ⟨index, same⟩ := Option.isSome_iff_exists.mp (own.known partitioned)
      obtain ⟨text, there⟩ := own.values index same column member key keyed
      rw [same, exportedColumn_key keyed there, finalizeColumn_key keyed there,
        evaluate_partitionExpression (env.scan.partitionKeys.getD key [])]
      cases GlueTypes.partitionValue db.toValueCasts (env.scan.partitionKeys.getD key []) text column.2 with
      | error failed => rfl
      | ok value =>
          dsimp only [Except.map]
          rw [HiveScanInfo.initializeColumn_constant]
          rfl

/-- A read reads of a file what the scan reads of it. -/
theorem fileRows_read {partition : Option env.Index} (exported : bound.hiveScanGetReaderCall db = some call)
    (own : bound.ReadOfPartition db call read partition) {path : Text} (inRead : path ∈ read.files) :
    read.fileRows db readers path = bound.cellRows db readers path := by
  have selected : ∀ row, (read.select.mapM fun column =>
      (column.2.evaluate db (read.call.column db (bound.openFile readers path) row) : Except Unit (Option Value))) =
        bound.columns.mapM (bound.scanCell db readers path row) := by
    intro row
    rw [own.select, own.call, List.mapM_map]
    apply mapM_congr
    intro column member
    exact evaluate_exportedColumn exported own inRead row member
  unfold SQLRead.fileRows cellRows
  dsimp only
  rw [openFile_eq exported own.call]
  cases (bound.openFile readers path).rows with
  | error failed => rfl
  | ok rows => exact mapM_congr fun row _ => selected row

theorem initializeReader_isOk {path : Text} : (bound.initializeReader db readers path).isOk = true ↔
    (env.scan.partitionKeys ≠ [] → ∃ index, bound.partitionOf path = some index ∧
      env.scan.checkPartitionColumns db.toValueCasts (env.partition index) env.scan.dataColumnIndexes = .ok ()) ∧
    ∀ column ∈ bound.columns,
      (env.finalizeColumn db (bound.partitionOf path) (bound.openFile readers path) column).isOk = true := by
  have columns : ∀ partition, ((do
      let expressions ← bound.columns.mapM (env.finalizeColumn db partition (bound.openFile readers path))
      return expressions.map (env.scan.initializeColumn db)) : Except Exception (List (SQLExpression Value))).isOk = true ↔
        ∀ column ∈ bound.columns, (env.finalizeColumn db partition (bound.openFile readers path) column).isOk = true := by
    intro partition
    rw [← mapM_isOk]
    cases bound.columns.mapM (env.finalizeColumn db partition (bound.openFile readers path)) with
    | error failed => exact iff_of_false nofun nofun
    | ok expressions => exact iff_of_true rfl rfl
  unfold initializeReader
  dsimp only
  by_cases unpartitioned : env.scan.partitionKeys = []
  · simp only [unpartitioned, ne_eq, not_true_eq_false, if_false, false_implies, true_and]
    exact columns _
  · simp only [ne_eq, unpartitioned, not_false_eq_true, if_true, true_implies]
    cases bound.partitionOf path with
    | none =>
        apply iff_of_false
        · nofun
        · intro ⟨⟨_, same, _⟩, _⟩
          cases same
    | some index =>
        dsimp only
        rw [← columns (some index)]
        cases checked : env.scan.checkPartitionColumns db.toValueCasts (env.partition index) env.scan.dataColumnIndexes with
        | error failed =>
            apply iff_of_false
            · nofun
            · intro ⟨⟨_, same, passed⟩, _⟩
              cases same
              rw [checked] at passed
              cases passed
        | ok =>
            have known : ∃ other, some index = some other ∧
                env.scan.checkPartitionColumns db.toValueCasts (env.partition other) env.scan.dataColumnIndexes = .ok () :=
              ⟨index, rfl, checked⟩
            simp only [known, true_and]
            rfl

/-- The expressions of a file the scan opens are those of its columns. -/
theorem initializeReader_eq_ok {path : Text} {expressions : List (SQLExpression Value)}
    (opened : bound.initializeReader db readers path = .ok expressions) :
    ∃ found, bound.columns.mapM
        (env.finalizeColumn db (bound.partitionOf path) (bound.openFile readers path)) = .ok found ∧
      expressions = found.map (env.scan.initializeColumn db) := by
  unfold initializeReader at opened
  dsimp only at opened
  by_cases unpartitioned : env.scan.partitionKeys = []
  · rw [if_neg (not_not.mpr unpartitioned)] at opened
    obtain ⟨found, done, same⟩ := bind_eq_ok.mp opened
    exact ⟨found, done, (pure_eq_ok.mp same).symm⟩
  · rw [if_pos unpartitioned] at opened
    cases own : bound.partitionOf path with
    | none =>
        rw [own] at opened
        cases opened
    | some index =>
        rw [own] at opened
        obtain ⟨_, _, opened⟩ := bind_eq_ok.mp opened
        obtain ⟨found, done, same⟩ := bind_eq_ok.mp opened
        exact ⟨found, done, (pure_eq_ok.mp same).symm⟩

/-- A file the scan opens is read column by column; another one fails. -/
theorem fileRows_scan (bound : BoundHiveScan env) (db : DuckDBFunctions Value) (readers : FileReaders Value)
    (path : Text) : bound.fileRows db readers path =
      if (bound.initializeReader db readers path).isOk then bound.cellRows db readers path else .error () := by
  unfold fileRows
  cases opened : bound.initializeReader db readers path with
  | error failed => rfl
  | ok expressions =>
      obtain ⟨found, done, rfl⟩ := initializeReader_eq_ok opened
      have cells : ∀ row, ((found.map (env.scan.initializeColumn db)).mapM fun expr =>
          (expr.evaluate db ((bound.openFile readers path).cell row) : Except Unit (Option Value))) =
            bound.columns.mapM (bound.scanCell db readers path row) := by
        intro row
        rw [List.mapM_map]
        apply mapM_of_mapM_ok done
        intro column expr finalized
        rw [scanCell, finalized]
        rfl
      apply Eq.trans _ (if_pos rfl).symm
      unfold cellRows
      dsimp only
      cases (bound.openFile readers path).rows with
      | error failed => rfl
      | ok rows => exact mapM_congr fun row _ => cells row

end BoundHiveScan

end DuckGlue
