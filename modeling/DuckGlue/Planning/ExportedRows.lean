import DuckGlue.Planning.ExportedScan

/-! # When the exported SQL returns the scan's rows

The reads of an exported scan cover its files, keep its columns and give every field the
scan's value. A scan still refuses a file whose partition it can not read as the table's,
or whose partition values are not of their keys' types, where the SQL reads its rows.
-/

namespace DuckGlue

open StringUtil SQLExpression Fallible

variable {Value : Type} {env : HiveListing} {bound : BoundHiveScan env} {db : DuckDBFunctions Value}
  {readers : FileReaders Value}

/-- The columns of the SQL, in their order. -/
def SQLRelation.HasColumns (names : List Text) : SQLRelation Value → Prop
  | .unionAll reads => ∀ read ∈ reads, read.select.map (·.1) = names
  | .noRows columns => columns.map (·.1) = names

namespace BoundHiveScan

/-- What opening a file asks of its partition. -/
structure OpensPartition (bound : BoundHiveScan env) (db : DuckDBFunctions Value) (index : env.Index) : Prop where
  /-- Its columns can be read as the table's. -/
  columns : env.scan.checkPartitionColumns db.toValueCasts (env.partition index) env.scan.dataColumnIndexes = .ok ()
  /-- Its values are of the keys' types. -/
  values : ∀ column ∈ bound.columns, ∀ key, env.scan.getPartitionKeyIndex column.1 = some key →
    ∀ text, (env.partition index).values[key]? = some text →
      (GlueTypes.partitionValue db.toValueCasts (env.scan.partitionKeys.getD key []) text column.2).isOk = true

/-- A file that can not be read, or has a row with a field or a partition value that does
not convert. -/
def FailsOn (bound : BoundHiveScan env) (db : DuckDBFunctions Value) (readers : FileReaders Value) (path : Text) : Prop :=
  (bound.openFile readers path).rows = .error () ∨
    ∃ rows, (bound.openFile readers path).rows = .ok rows ∧ ∃ row ∈ rows, ∃ column ∈ bound.columns,
      bound.scanCell db readers path row column = .error ()

/-- The SQL reads what the scan reads. -/
structure ExportsScan (bound : BoundHiveScan env) (db : DuckDBFunctions Value) (readers : FileReaders Value)
    (relation : SQLRelation Value) : Prop where
  /-- Every listed file is in one read, once. -/
  files : (relation.reads.flatMap (·.files)).Perm (bound.files.map (·.path))
  columns : relation.HasColumns env.scan.names
  /-- Every field is the value, NULL or error the scan makes of it, every partition column
  the value of the file's partition. -/
  cells : ∀ read ∈ relation.reads, ∀ path ∈ read.files, ∀ row,
    read.select.map (fun column => column.2.evaluate db (read.call.column db (read.openFile readers path) row)) =
      bound.columns.map (bound.scanCell db readers path row)
  rows : SameRows (bound.rows db readers) (relation.rows db readers)

/-! ## The rows -/

/-- Reads of the same files in any order, of which one refuses more files than the other. -/
theorem sameRows_collect {f g : Text → Except Unit (List (SQLRow Value))} {paths others : List Text}
    (perm : others.Perm paths) (agrees : ∀ path ∈ paths, (f path).isOk = true → f path = g path) :
    SameRows (collect f paths) (collect g others) ↔
      (∀ path ∈ paths, (f path).isOk = true) ∨ ∃ path ∈ paths, (g path).isOk = false := by
  have reads : (collect g others).isOk = true ↔ ∀ path ∈ paths, (g path).isOk = true := by
    rw [collect_isOk]
    exact forall_congr' fun path => by rw [perm.mem_iff]
  by_cases opens : ∀ path ∈ paths, (f path).isOk = true
  · have same : ∀ path ∈ paths, f path = g path := by
      intro path member
      exact agrees path member (opens path member)
    have runs : ∀ path ∈ others, (g path).isOk = true := by
      intro path member
      have listed := perm.mem_iff.mp member
      rw [← same path listed]
      exact opens path listed
    have results : paths.flatMap (resultOf f) = paths.flatMap (resultOf g) := by
      apply List.flatMap_congr
      intro path member
      rw [resultOf, resultOf, same path member]
    rw [collect_eq_ok opens, collect_eq_ok runs, results]
    exact iff_of_true (perm.symm.flatMap_right _) (.inl opens)
  · have fails : ¬(collect f paths).isOk = true := fun runs => opens (collect_isOk.mp runs)
    have failsToo : (∃ path ∈ paths, (g path).isOk = false) ↔ ¬(collect g others).isOk = true := by
      rw [reads]
      push Not
      simp only [Bool.not_eq_true]
    rw [failsToo]
    cases refused : collect f paths with
    | ok _ =>
        rw [refused] at fails
        exact absurd rfl fails
    | error _ =>
        cases collect g others with
        | ok _ =>
            exact iff_of_false (fun same => by cases same) fun either => either.elim opens fun never => never rfl
        | error _ => exact iff_of_true trivial (.inr (fun runs => by cases runs))

theorem cellRows_isOk {path : Text} : (bound.cellRows db readers path).isOk = true ↔ ¬bound.FailsOn db readers path := by
  unfold cellRows FailsOn
  cases (bound.openFile readers path).rows with
  | error _ => exact iff_of_false nofun fun never => never (.inl rfl)
  | ok rows =>
      have runs : ((rows.mapM fun row => bound.columns.mapM (bound.scanCell db readers path row)) :
          Except Unit (List (SQLRow Value))).isOk = true ↔
            ∀ row ∈ rows, ∀ column ∈ bound.columns, (bound.scanCell db readers path row column).isOk = true := by
        rw [mapM_isOk]
        exact forall₂_congr fun row _ => mapM_isOk
      have fails : ∀ row column, bound.scanCell db readers path row column = .error () ↔
          ¬(bound.scanCell db readers path row column).isOk = true := by
        intro row column
        cases bound.scanCell db readers path row column with
        | error _ => exact iff_of_true rfl nofun
        | ok _ => exact iff_of_false nofun fun never => never rfl
      apply runs.trans
      constructor
      · intro all failing
        obtain never | ⟨others, same, row, inRows, column, inColumns, failed⟩ := failing
        · cases never
        · cases same
          exact (fails row column).mp failed (all row inRows column inColumns)
      · intro never row inRows column inColumns
        by_contra failed
        exact never (.inr ⟨rows, rfl, row, inRows, column, inColumns, (fails row column).mpr failed⟩)

/-! ## What the scan opens -/

variable {call : HiveReaderCall Value} {read : SQLRead Value} {partition : Option env.Index}

/-- A file of an exported read is opened if its partition is. -/
theorem initializeReader_of_read (own : bound.ReadOfPartition db call read partition) {path : Text}
    (inRead : path ∈ read.files) : (bound.initializeReader db readers path).isOk = true ↔
      ∀ index, bound.partitionOf path = some index → bound.OpensPartition db index := by
  rw [initializeReader_isOk, own.files path inRead]
  constructor
  · intro ⟨checked, finalized⟩ index same
    have partitioned : env.scan.partitionKeys ≠ [] := by
      intro unpartitioned
      have none := own.files path inRead
      rw [partitionOf, if_pos unpartitioned, same] at none
      cases none
    constructor
    · obtain ⟨other, again, passed⟩ := checked partitioned
      rw [same] at again
      cases again
      exact passed
    · intro column member key keyed text there
      have here := finalized column member
      rw [same, finalizeColumn_key keyed there] at here
      cases value : GlueTypes.partitionValue db.toValueCasts (env.scan.partitionKeys.getD key []) text column.2 with
      | ok _ => rfl
      | error _ =>
          rw [value] at here
          cases here
  · intro opens
    constructor
    · intro partitioned
      obtain ⟨index, same⟩ := Option.isSome_iff_exists.mp (own.known partitioned)
      exact ⟨index, same, (opens index same).columns⟩
    · intro column member
      cases keyed : env.scan.getPartitionKeyIndex column.1 with
      | none =>
          rw [finalizeColumn_plain keyed]
          rfl
      | some key =>
          have partitioned : env.scan.partitionKeys ≠ [] := by
            intro unpartitioned
            rw [getPartitionKeyIndex_none unpartitioned] at keyed
            cases keyed
          obtain ⟨index, same⟩ := Option.isSome_iff_exists.mp (own.known partitioned)
          obtain ⟨text, there⟩ := own.values index same column member key keyed
          have typed := (opens index same).values column member key keyed text there
          rw [same, finalizeColumn_key keyed there]
          cases value : GlueTypes.partitionValue db.toValueCasts (env.scan.partitionKeys.getD key []) text column.2 with
          | ok _ => rfl
          | error _ =>
              rw [value] at typed
              cases typed

/-- The rows of the SQL are those of the files of its reads. -/
theorem rows_relation {relation : SQLRelation Value} (called : bound.hiveScanGetReaderCall db = some call)
    (owned : ∀ read ∈ relation.reads, ∃ partition, bound.ReadOfPartition db call read partition) :
    relation.rows db readers = collect (bound.cellRows db readers) (relation.reads.flatMap (·.files)) := by
  rw [← collect_collect]
  unfold SQLRelation.rows
  have each : ∀ read ∈ relation.reads, read.rows db readers = collect (bound.cellRows db readers) read.files := by
    intro read member
    obtain ⟨partition, own⟩ := owned read member
    unfold SQLRead.rows collect
    rw [mapM_congr fun path inRead => fileRows_read called own inRead]
  unfold collect at each ⊢
  rw [mapM_congr each]

theorem hasColumns {exporter : SQLExporter Value} {relation : SQLRelation Value}
    (exported : bound.hiveScanToSQL db readers exporter = .ok relation)
    (owned : ∀ read ∈ relation.reads, ∃ partition, bound.ReadOfPartition db call read partition) :
    relation.HasColumns env.scan.names := by
  obtain ⟨_, _, _, _, _, noRows | union⟩ := hiveScanToSQL_eq_ok exported
  · rw [noRows]
    exact bound.map_fst_columns
  · rw [union]
    intro read member
    obtain ⟨partition, own⟩ := owned read member
    rw [own.select, List.map_map, ← bound.map_fst_columns]
    rfl

/-- The SQL reads what the scan reads, unless the scan refuses a partition of a listed file
and every file converts. -/
theorem exportsScan_iff {exporter : SQLExporter Value} {relation : SQLRelation Value}
    (exported : bound.hiveScanToSQL db readers exporter = .ok relation) :
    bound.ExportsScan db readers relation ↔
      (∀ file ∈ bound.files, ∀ index, bound.partitionOf file.path = some index → bound.OpensPartition db index) ∨
        ∃ file ∈ bound.files, bound.FailsOn db readers file.path := by
  obtain ⟨call, called, covered, owned⟩ := hiveScanToSQL_reads exported
  have opened : ∀ path ∈ bound.files.map (·.path), (bound.initializeReader db readers path).isOk = true ↔
      ∀ index, bound.partitionOf path = some index → bound.OpensPartition db index := by
    intro path listed
    obtain ⟨read, member, inRead⟩ := List.mem_flatMap.mp (covered.mem_iff.mpr listed)
    obtain ⟨partition, own⟩ := owned read member
    exact initializeReader_of_read own inRead
  have agrees : ∀ path ∈ bound.files.map (·.path), (bound.fileRows db readers path).isOk = true →
      bound.fileRows db readers path = bound.cellRows db readers path := by
    intro path _ runs
    rw [fileRows_scan] at runs ⊢
    split_ifs at runs ⊢
    · rfl
    · cases runs
  have rows : SameRows (bound.rows db readers) (relation.rows db readers) ↔
      (∀ path ∈ bound.files.map (·.path), (bound.fileRows db readers path).isOk = true) ∨
        ∃ path ∈ bound.files.map (·.path), (bound.cellRows db readers path).isOk = false := by
    rw [rows_relation called owned]
    exact sameRows_collect covered agrees
  have condition : ((∀ path ∈ bound.files.map (·.path), (bound.fileRows db readers path).isOk = true) ∨
      ∃ path ∈ bound.files.map (·.path), (bound.cellRows db readers path).isOk = false) ↔
        (∀ path ∈ bound.files.map (·.path), (bound.initializeReader db readers path).isOk = true) ∨
          ∃ path ∈ bound.files.map (·.path), bound.FailsOn db readers path := by
    have fails : ∀ path, (bound.cellRows db readers path).isOk = false ↔ bound.FailsOn db readers path := by
      intro path
      rw [← not_iff_not, ← cellRows_isOk, Bool.not_eq_false]
    simp only [fails]
    constructor
    · intro either
      apply either.imp_left
      intro runs path member
      have here := runs path member
      rw [fileRows_scan] at here
      split_ifs at here with opens
      · exact opens
      · cases here
    · intro either
      by_cases failing : ∃ path ∈ bound.files.map (·.path), bound.FailsOn db readers path
      · exact .inr failing
      · left
        intro path member
        rw [fileRows_scan, if_pos ((either.resolve_right failing) path member), cellRows_isOk]
        exact fun fails => failing ⟨path, member, fails⟩
  have listed : ((∀ path ∈ bound.files.map (·.path), (bound.initializeReader db readers path).isOk = true) ∨
      ∃ path ∈ bound.files.map (·.path), bound.FailsOn db readers path) ↔
        (∀ file ∈ bound.files, ∀ index, bound.partitionOf file.path = some index → bound.OpensPartition db index) ∨
          ∃ file ∈ bound.files, bound.FailsOn db readers file.path := by
    rw [forall₂_congr opened]
    apply or_congr List.forall_mem_map
    simp only [List.mem_map, exists_exists_and_eq_and]
  rw [← listed, ← condition, ← rows]
  constructor
  · exact fun exports => exports.rows
  · intro same
    refine ⟨covered, hasColumns exported owned, ?_, same⟩
    intro read member path inRead row
    obtain ⟨partition, own⟩ := owned read member
    rw [own.select, own.call, openFile_eq called own.call, List.map_map]
    apply List.map_congr_left
    intro column inColumns
    exact evaluate_exportedColumn called own inRead row inColumns

end BoundHiveScan

/-! ## A partition that declares another type -/

def redeclaredTable : GlueTable where
  tableInfo := {
    name := "events"
    schemaName := "lake"
    location := "s3://bucket/events"
    columns := [{ name := "id", type := "int" }]
    partitionKeys := [{ name := "day", type := "string" }] }
  columns := [("id".toList, .integer), ("day".toList, .varchar)]

/-- The table's `id` was a date when the partition was added. -/
def redeclaredListing : HiveListing where
  scan := {
    databaseName := "lake"
    tableName := "events"
    table := some redeclaredTable
    rootLocation := "s3://bucket/events"
    names := ["id".toList, "day".toList]
    types := [.integer, .varchar]
    partitionKeys := ["day".toList] }
  partitions := [{
    values := ["5".toList]
    location := "s3://bucket/events/day=5"
    partitionColumns := [{ name := "id", type := "date" }] }]
  fs := .ofObjects []
  db := ⟨fun _ => none⟩
  threads := 1

def redeclaredScan : BoundHiveScan redeclaredListing where
  types := [.integer, .varchar]
  files := [⟨"s3://bucket/events/day=5/a.parquet", some 512⟩]
  filePartitions := (∅ : FilePartitions redeclaredListing).insert "s3://bucket/events/day=5/a.parquet" ⟨0, by decide⟩
  typed := rfl
  distinct := by decide
  textual := nofun

/-- No function but the comparison of types is called on the columns of the table. -/
def textFunctions : DuckDBFunctions Text where
  ofText := id
  tryCastAs text _ := some text
  typeName _ := "INTEGER"
  implicitCastCost _ _ := -1
  cast _ text := some text
  cast_ofText _ _ := rfl
  epoch := "1970-01-01"
  isTrue value := decide (value = "true".toList)
  contains _ _ := none
  regexpReplace _ _ _ _ := none
  lower value := some (lower value)
  equal _ _ := none
  add _ _ := none
  makeTimestampMs _ := none
  decode value := some value

/-- Every file has one row, 7. -/
def sevenReaders : FileReaders Text where
  openFile _ parameters _ := {
    columns :=
      match parameters.find "columns" with
      | some (.columns columns) => columns
      | _ => [("id".toList, .integer)]
    rows := .ok [[some "7".toList]] }
  columns_given _ _ _ _ given := by rw [given]
  normalize path := path

def everyExporter : SQLExporter Text where
  exportsCall _ _ := true
  exportsNull _ := true

def redeclaredSQL : SQLRelation Text :=
  match redeclaredScan.hiveScanToSQL textFunctions sevenReaders everyExporter with
  | .ok relation => relation
  | .error _ => .noRows []

theorem redeclared_exported :
    redeclaredScan.hiveScanToSQL textFunctions sevenReaders everyExporter = .ok redeclaredSQL := rfl

theorem exportsScan_iff_redeclared : redeclaredScan.ExportsScan textFunctions sevenReaders redeclaredSQL ↔
    (∀ file ∈ redeclaredScan.files, ∀ index, redeclaredScan.partitionOf file.path = some index →
      redeclaredScan.OpensPartition textFunctions index) ∨
      ∃ file ∈ redeclaredScan.files, redeclaredScan.FailsOn textFunctions sevenReaders file.path :=
  BoundHiveScan.exportsScan_iff redeclared_exported

/-- The scan refuses the partition, the SQL reads its row. -/
theorem redeclared_exports : redeclaredScan.hiveScanToSQL textFunctions sevenReaders everyExporter = .ok redeclaredSQL ∧
    redeclaredSQL.rows textFunctions sevenReaders = .ok [[some "7".toList, some "5".toList]] ∧
      ¬redeclaredScan.ExportsScan textFunctions sevenReaders redeclaredSQL := by
  have refused : redeclaredScan.rows textFunctions sevenReaders = .error () := rfl
  have read : redeclaredSQL.rows textFunctions sevenReaders = .ok [[some "7".toList, some "5".toList]] := rfl
  refine ⟨redeclared_exported, read, ?_⟩
  intro exports
  have same := exports.rows
  rw [refused, read] at same
  exact same

end DuckGlue
