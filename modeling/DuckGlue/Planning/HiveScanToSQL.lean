import DuckGlue.Lib.Grouping
import DuckGlue.Planning.FieldConversion
import DuckGlue.Planning.HiveMultiFileList

/-! # A scan as the reader calls that read its files

`HiveScanToSQL` spells a bound scan as calls of DuckDB's own readers: one for the files of
each partition, whose values stand in the select list, all together with UNION ALL. The
scan itself opens each file with the values and the columns of its partition.
-/

namespace DuckGlue

open StringUtil SQLExpression

inductive ReaderParameter where
  | boolean (value : Bool)
  | bigint (value : ℕ)
  | varchar (value : Text)
  | columns (columns : List (Text × LogicalType))

abbrev ReaderParameters := List (Text × ReaderParameter)

def ReaderParameters.find (parameters : ReaderParameters) (name : Text) : Option ReaderParameter :=
  (parameters.find? fun parameter => parameter.1 = name).map (·.2)

/-- The settings a scan binds its reader with. -/
structure ReaderSettings where
  /-- `hive_csv_max_line_size` -/
  csvMaxLineSize : ℕ := 8000000
  /-- `hive_csv_parallel`, when set. -/
  csvParallel : Option Bool := none
  /-- The buffer size `read_csv` has by itself. -/
  csvBufferSize : ℕ := 32000000

/-- A value or NULL for each column. -/
abbrev SQLRow (Value : Type) := List (Option Value)

/-- A data file as a reader opens it, if it can be read. -/
structure DataFile (Value : Type) where
  columns : List (Text × LogicalType)
  rows : Except Unit (List (SQLRow Value))

/-- DuckDB's readers. -/
structure FileReaders (Value : Type) where
  /-- What a reader function makes of a file. -/
  openFile : Text → ReaderParameters → Text → DataFile Value
  /-- The `columns` option is the columns of a file. -/
  columns_given : ∀ function parameters path columns, parameters.find "columns" = some (.columns columns) →
    (openFile function parameters path).columns = columns
  /-- `Path::Normalize` -/
  normalize : Text → Text

namespace DataFile

variable {Value : Type} (file : DataFile Value)

/-- The type a file has a column of a name with. -/
def columnType (name : Text) : Option LogicalType := (file.columns.find? fun column => ciEquals column.1 name).map (·.2)

/-- The value of a row in a column of the file. -/
def cell (row : SQLRow Value) (name : Text) : SQLResult Value :=
  match file.columns.findIdx? fun column => ciEquals column.1 name with
  | some index => .ok (row.getD index none)
  | none => .error ()

end DataFile

namespace LogicalType

mutual

/-- `TypeVisitor::Contains` of BLOB. -/
def containsBlob : LogicalType → Bool
  | .blob => true
  | .list child => containsBlob child
  | .map key value => containsBlob key || containsBlob value
  | .struct children => containsBlobFields children
  | _ => false

def containsBlobFields : List (Text × LogicalType) → Bool
  | [] => false
  | (_, type) :: fields => containsBlob type || containsBlobFields fields

end

end LogicalType

namespace HiveScanInfo

variable (scan : HiveScanInfo)

/-- `HasBinaryColumn` -/
def hasBinaryColumn : Bool := scan.types.any (·.containsBlob)

/-- `ReaderFunctionName` -/
def readerFunctionName : Text :=
  match scan.fileFormat with
  | .parquet => "read_parquet"
  | .csv => "read_csv"
  | .json => "read_json"
  | .avro => "read_avro"

/-- The columns `BindHiveScan` gives a text reader. -/
def dataColumns : List (Text × LogicalType) :=
  ((scan.names.zip scan.types).filter fun column => (scan.getPartitionKeyIndex column.1).isNone).map fun column =>
    (column.1, if scan.csvOptions.serdeFields then .varchar else column.2)

/-- The columns and the dialect: there is nothing left to sniff. -/
def dialectParameters : ReaderParameters :=
  [("columns", .columns scan.dataColumns), ("auto_detect", .boolean false), ("header", .boolean false),
    ("skip", .bigint scan.csvOptions.skipLines), ("delim", .varchar scan.csvOptions.delimiter),
    ("quote", .varchar scan.csvOptions.quote), ("escape", .varchar scan.csvOptions.escape),
    ("nullstr", .varchar scan.csvOptions.nullString), ("allow_quoted_nulls", .boolean false)]

/-- A line has to fit in one of the reader's buffers. -/
def lineSizeParameters (settings : ReaderSettings) : ReaderParameters :=
  ("max_line_size", .bigint settings.csvMaxLineSize) ::
    if settings.csvMaxLineSize > settings.csvBufferSize then [("buffer_size", .bigint settings.csvMaxLineSize)] else []

/-- Missing trailing fields are NULL, further fields ignored. -/
def serdeFieldsParameters (settings : ReaderSettings) : ReaderParameters :=
  if scan.csvOptions.serdeFields then
    ("null_padding", .boolean true) :: ("strict_mode", .boolean false) ::
      if scan.csvOptions.quote ≠ [] ∧ settings.csvParallel = some false then [("parallel", .boolean false)] else []
  else []

/-- The parameters `BindHiveScan` binds the reader with. -/
def readerParameters (settings : ReaderSettings) : ReaderParameters :=
  match scan.fileFormat with
  | .parquet => [("binary_as_string", .boolean !scan.hasBinaryColumn), ("can_have_nan", .boolean true)]
  | .csv => scan.dialectParameters ++ (lineSizeParameters settings ++ scan.serdeFieldsParameters settings)
  | .json =>
      ("columns", .columns scan.dataColumns) :: ("format", .varchar "newline_delimited") ::
        ("case_insensitive_keys", .boolean scan.jsonOptions.caseInsensitiveKeys) ::
          if scan.jsonOptions.ignoreErrors then [("ignore_errors", .boolean true)] else []
  | .avro => []

end HiveScanInfo

/-- A scan as it was bound and planned. -/
structure BoundHiveScan (env : HiveListing) where
  /-- `bind_data.types`; the names are the table's. -/
  types : List LogicalType
  settings : ReaderSettings := {}
  /-- The files `GetAllFiles` lists. -/
  files : List OpenFileInfo
  filePartitions : FilePartitions env := ∅
  /-- The query reads a virtual column. -/
  readsVirtualColumn : Bool := false
  typed : types.length = env.scan.names.length
  /-- The catalog refuses two columns of one name. -/
  distinct : env.scan.names.Pairwise fun name other => ciEquals name other = false
  /-- Only csv tables have csv options. -/
  textual : env.scan.csvOptions.serdeFields = true → env.scan.fileFormat = .csv

/-- `HiveReaderCall`; every expression with its alias. -/
structure HiveReaderCall (Value : Type) where
  function : Text
  parameters : ReaderParameters
  /-- The `schema` parameter. -/
  schema : Option (List (Text × LogicalType)) := none
  columns : List (Text × SQLExpression Value)

/-- A reader call over files, and what is selected of it. -/
structure SQLRead (Value : Type) where
  select : List (Text × SQLExpression Value)
  call : HiveReaderCall Value
  files : List Text

/-- What the scan is exported as. -/
inductive SQLRelation (Value : Type) where
  | unionAll (reads : List (SQLRead Value))
  /-- The columns without a row. -/
  | noRows (columns : List (Text × LogicalType))

/-- Which constants the SQL export can spell. -/
structure SQLExporter (Value : Type) where
  exportsCall : HiveReaderCall Value → List Text → Bool
  exportsNull : LogicalType → Bool

variable {Value : Type}

namespace HiveScanInfo

variable (scan : HiveScanInfo) (db : DuckDBFunctions Value)

/-- The positions of the columns that are no partition keys. -/
def dataColumnIndexes : List ℕ :=
  (List.range scan.names.length).filter fun index =>
    (scan.getPartitionKeyIndex (scan.names.getD index [])).isNone

/-- `InitializeReader` for a column. -/
def initializeColumn (expr : SQLExpression Value) : SQLExpression Value :=
  if scan.fileFormat = .parquet then if scan.hasBinaryColumn then decodeBlobAsText expr else expr
  else if scan.csvOptions.serdeFields then convertField db scan.csvOptions expr
  else expr

/-- `ScanTypeIsTableType` -/
def scanTypeIsTableType (column : Text × LogicalType) : Bool :=
  match (scan.names.zip scan.types).find? fun own => ciEquals own.1 column.1 with
  | some own => own.2.same column.2
  | none => false

/-- The select list: the data columns in their order, each key as the partition's value. -/
def selectList (values : List (Text × SQLExpression Value)) :
    List Text → List (Text × SQLExpression Value) → List (Text × SQLExpression Value)
  | [], _ => []
  | name :: names, data =>
      match scan.getPartitionKeyIndex name with
      | none => data.head?.toList ++ selectList values names data.tail
      | some key => values[key]?.toList ++ selectList values names data

end HiveScanInfo

/-! ## The scan -/

/-- `FinalizeBind` for a column: the value of the partition, else the column of the file. -/
def HiveListing.finalizeColumn (env : HiveListing) (db : DuckDBFunctions Value) (partition : Option env.Index)
    (file : DataFile Value) (column : Text × LogicalType) : Except Exception (SQLExpression Value) :=
  match partition, env.scan.getPartitionKeyIndex column.1 with
  | some index, some key =>
      match (env.partition index).values[key]? with
      | none => .error (.internal "index out of range")
      | some text => do
          let value ← GlueTypes.partitionValue db.toValueCasts (env.scan.partitionKeys.getD key []) text column.2
          return .constant column.2 value
  | _, _ => .ok (mapColumn (file.columnType column.1) column.1 column.2)

namespace BoundHiveScan

variable {env : HiveListing} (bound : BoundHiveScan env) (db : DuckDBFunctions Value) (readers : FileReaders Value)

/-- The columns of the scan. -/
def columns : List (Text × LogicalType) := env.scan.names.zip bound.types

/-- The partition of a listed file, if the table has partitions. -/
def partitionOf (path : Text) : Option env.Index :=
  if env.scan.partitionKeys = [] then none else bound.filePartitions.lookup path

/-- A file as the reader of the scan opens it. -/
def openFile (path : Text) : DataFile Value :=
  readers.openFile env.scan.readerFunctionName (env.scan.readerParameters bound.settings) path

/-- `FinalizeBind`, then `InitializeReader`, of a file. -/
def initializeReader (path : Text) : Except Exception (List (SQLExpression Value)) := do
  let partition := bound.partitionOf path
  if env.scan.partitionKeys ≠ [] then
    match partition with
    | none =>
        throw (.internal ("Hive scan of '" ++ env.scan.databaseName ++ "." ++ env.scan.tableName ++ "': data file '" ++
          path ++ "' does not belong to any Glue partition"))
    | some index =>
        env.scan.checkPartitionColumns db.toValueCasts (env.partition index) env.scan.dataColumnIndexes
  let expressions ← bound.columns.mapM (env.finalizeColumn db partition (bound.openFile readers path))
  return expressions.map (env.scan.initializeColumn db)

/-- The rows the scan reads of a file. -/
def fileRows (path : Text) : Except Unit (List (SQLRow Value)) := do
  let expressions ← (bound.initializeReader db readers path).mapError fun _ => ()
  let file := bound.openFile readers path
  let rows ← file.rows
  rows.mapM fun row => expressions.mapM (·.evaluate db (file.cell row))

/-- The rows of the scan. -/
def rows : Except Unit (List (SQLRow Value)) :=
  Fallible.collect (bound.fileRows db readers) (bound.files.map (·.path))

end BoundHiveScan

/-! ## The export -/

namespace BoundHiveScan

variable {env : HiveListing} (bound : BoundHiveScan env) (db : DuckDBFunctions Value) (readers : FileReaders Value)

/-- `DataColumnsSchema` -/
def dataColumnsSchema : List (Text × LogicalType) :=
  bound.columns.filter fun column => (env.scan.getPartitionKeyIndex column.1).isNone

/-- `HiveScanGetReaderCall` -/
def hiveScanGetReaderCall : Option (HiveReaderCall Value) :=
  if env.scan.fileFormat = .parquet ∧ env.scan.hasBinaryColumn = true then none
  else if !bound.columns.all env.scan.scanTypeIsTableType then none
  else
    some {
      function := env.scan.readerFunctionName
      parameters := env.scan.readerParameters bound.settings
      schema :=
        if env.scan.fileFormat = .parquet ∨ env.scan.fileFormat = .avro then some bound.dataColumnsSchema else none
      columns := bound.dataColumnsSchema.map fun column => (column.1, readerColumn db env.scan column.1 column.2) }

/-- The value of a partition as an expression: the cast of `PartitionValue` is the caller's. -/
def partitionExpression (text : Text) (type : LogicalType) : SQLExpression Value :=
  if GlueTypes.partitionValueIsNull text type then .cast type false (.constant (.unsupported "NULL") none)
  else if type.same .varchar then SQLExpression.text db text
  else .cast type false (SQLExpression.text db text)

/-- The loop over the keys and values of a partition. -/
def partitionExpressions : List (Text × Text) → Option (List (Text × SQLExpression Value))
  | [] => some []
  | (key, text) :: rest =>
      match bound.columns.find? fun column => ciEquals column.1 key with
      | none => partitionExpressions rest
      | some column =>
          if env.scan.scanTypeIsTableType column then
            (partitionExpressions rest).map ((column.1, partitionExpression db text column.2) :: ·)
          else none

/-- `HiveScanGetFilePartitionValues`; the path may be spelled another way. -/
def hiveScanGetFilePartitionValues (path : Text) : Option (List (Text × SQLExpression Value)) :=
  if env.scan.partitionKeys = [] then none
  else
    let index := (bound.filePartitions.lookup path).or (bound.filePartitions.lookup (readers.normalize path))
    index.bind fun index =>
      match bound.partitionExpressions db (env.scan.partitionKeys.zip (env.partition index).values) with
      | none => none
      | some values => if values.length = env.scan.partitionKeys.length then some values else none

/-- The files of each partition, the partitions in the order the scan lists them. -/
def partitionFiles : Option (List (List Text)) :=
  let files := bound.files.map (·.path)
  if env.scan.partitionKeys = [] then some (files.foldl (fun groups file => Grouping.addTo groups 0 file) [])
  else (Grouping.ofList bound.filePartitions.lookup {} files).map (·.groups)

/-- The read of the files of a partition. -/
def readOf (exporter : SQLExporter Value) (call : HiveReaderCall Value) (files : List Text) :
    Except Text (SQLRead Value) :=
  let values :=
    if env.scan.partitionKeys = [] then some []
    else files.head?.bind (bound.hiveScanGetFilePartitionValues db readers)
  match values with
  | none => .error "partition_values"
  | some values =>
      if exporter.exportsCall call files then
        .ok { select := env.scan.selectList values env.scan.names call.columns, call, files }
      else .error "reader_parameter"

/-- `HiveScanToSQL`; without reader calls the table is read by name, for a reason. -/
def hiveScanToSQL (exporter : SQLExporter Value) : Except Text (SQLRelation Value) :=
  if bound.readsVirtualColumn then .error "virtual_column"
  else
    match bound.hiveScanGetReaderCall db, bound.partitionFiles with
    | none, _ => .error "reader_call"
    | some _, none => .error "partition_values"
    | some call, some groups => do
        let reads ← groups.mapM (bound.readOf db readers exporter call)
        if reads.isEmpty then
          if bound.columns.all fun column => exporter.exportsNull column.2 then return .noRows bound.columns
          else .error "column_type"
        else return .unionAll reads

end BoundHiveScan

/-! ## What the SQL reads -/

namespace HiveReaderCall

variable (call : HiveReaderCall Value) (db : DuckDBFunctions Value)

/-- A column of the reader call for a row of a file: the column of the file, mapped as the
`schema` says. -/
def column (file : DataFile Value) (row : SQLRow Value) (name : Text) : SQLResult Value :=
  match call.schema with
  | none => file.cell row name
  | some schema =>
      match schema.find? fun column => ciEquals column.1 name with
      | some column => (mapColumn (file.columnType column.1) column.1 column.2).evaluate db (file.cell row)
      | none => .error ()

end HiveReaderCall

namespace SQLRead

variable (read : SQLRead Value) (db : DuckDBFunctions Value) (readers : FileReaders Value)

def openFile (path : Text) : DataFile Value := readers.openFile read.call.function read.call.parameters path

def fileRows (path : Text) : Except Unit (List (SQLRow Value)) := do
  let file := read.openFile readers path
  let rows ← file.rows
  rows.mapM fun row => read.select.mapM (·.2.evaluate db (read.call.column db file row))

def rows : Except Unit (List (SQLRow Value)) := Fallible.collect (read.fileRows db readers) read.files

end SQLRead

namespace SQLRelation

def reads : SQLRelation Value → List (SQLRead Value)
  | .unionAll reads => reads
  | .noRows _ => []

/-- UNION ALL keeps every row of every read. -/
def rows (relation : SQLRelation Value) (db : DuckDBFunctions Value) (readers : FileReaders Value) :
    Except Unit (List (SQLRow Value)) :=
  Fallible.collect (·.rows db readers) relation.reads

end SQLRelation

/-- The same rows in some order, or an error of both. -/
def SameRows : Except Unit (List (SQLRow Value)) → Except Unit (List (SQLRow Value)) → Prop
  | .ok rows, .ok others => rows.Perm others
  | .error _, .error _ => True
  | _, _ => False

end DuckGlue
