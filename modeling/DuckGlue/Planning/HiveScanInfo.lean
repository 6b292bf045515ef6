import DuckGlue.Core.GlueFormat
import DuckGlue.Core.GlueTypes

/-! # What a Hive scan knows

A scan binds one reader for the table; Hive reads every partition with its own
SerDe. So each partition a scan reaches is checked against the reader and against
the columns the scan reads before its files are.
-/

namespace DuckGlue

open StringUtil

/-- A Hive table as the catalog holds it: data columns first, partition keys last. -/
structure GlueTable where
  tableInfo : GlueTableInfo
  columns : List (Text × LogicalType)

/-- Everything a Hive table scan knows before any data file is opened. -/
structure HiveScanInfo where
  catalogName : Text := []
  databaseName : Text := []
  tableName : Text := []
  /-- The catalog table this scan reads; a `hive_scan` over a location has none. -/
  table : Option GlueTable := none
  rootLocation : Text
  names : List Text := []
  types : List LogicalType := []
  fileFormat : HiveFileFormat := .parquet
  csvOptions : HiveCSVOptions := {}
  jsonOptions : HiveJSONOptions := {}
  partitionKeys : List Text := []

namespace HiveScanInfo

/-- `Describe`: the table in error messages. -/
def describe (scan : HiveScanInfo) : Text :=
  if scan.databaseName = [] then scan.tableName else scan.databaseName ++ "." ++ scan.tableName

/-- `GetPartitionKeyIndex`: the first key of that name, whatever the letters' case. -/
def getPartitionKeyIndex (scan : HiveScanInfo) (name : Text) : Option Nat :=
  scan.partitionKeys.findIdx? fun key => ciEquals key name

/-- The `<key>=<value>` pairs the messages name a partition by. -/
def partitionSpec (scan : HiveScanInfo) (partition : GluePartitionInfo) : Text :=
  join (List.zipWith (fun key value => key ++ "=" ++ value) scan.partitionKeys partition.values) ", "

/-- `partition_storage`: the descriptor fields of the partition, the table's where
it has none. -/
def partitionStorage (table : GlueTableInfo) (partition : GluePartitionInfo) : GlueTableInfo :=
  { table with
    inputFormat := if partition.inputFormat = [] then table.inputFormat else partition.inputFormat
    serdeLibrary := if partition.serdeLibrary = [] then table.serdeLibrary else partition.serdeLibrary
    serdeParameters :=
      if partition.serdeLibrary = [] then table.serdeParameters else partition.serdeParameters }

/-- The reader options of a storage of the scan's file format that differ from the
scan's. -/
def optionsDiffer (db : DuckDB) (scan : HiveScanInfo) (storage : GlueTableInfo) : Except Exception Text :=
  match scan.fileFormat with
  | .csv => do
      let options ← storage.getCSVOptions db
      return if options ≠ scan.csvOptions then "csv with another dialect" else []
  | .json => do
      let options ← storage.getJSONOptions
      return if options.ignoreErrors ≠ scan.jsonOptions.ignoreErrors then "json with other SerDe properties" else []
  | .parquet | .avro => .ok []

/-- The `try` block: what the storage is read as when not as the scan reads it. -/
def readDifferently (db : DuckDB) (scan : HiveScanInfo) (storage : GlueTableInfo) : Except Exception Text := do
  let partitionFormat ← storage.getFileFormat
  if partitionFormat.isText then
    storage.checkTextSerdeSupported db partitionFormat
  if partitionFormat ≠ scan.fileFormat then return partitionFormat.toText
  else scan.optionsDiffer db storage

/-- `stored_as`, empty when the storage reads like the table. -/
def storedAs (db : DuckDB) (scan : HiveScanInfo) (storage : GlueTableInfo) : Except Exception Text :=
  let format := storage.getFormat
  if !format.isHive then .ok (format.describe storage)
  else match scan.readDifferently db storage with
    | .ok storedAs => .ok storedAs
    | .error exception =>
        if exception.type = .notImplemented then .ok "an unsupported format" else .error exception

/-- The partition names the table's classes and SerDe parameters, whatever the
letters' case. -/
def namesTableStorage (table : GlueTableInfo) (partition : GluePartitionInfo) : Bool :=
  let storage := partitionStorage table partition
  ciEquals storage.inputFormat table.inputFormat && ciEquals storage.serdeLibrary table.serdeLibrary &&
    (partition.serdeLibrary = [] || partition.serdeParameters.same table.serdeParameters)

/-- `PartitionStorageMismatch`: `.ok none` is no error, `.error` one that is thrown
rather than returned. -/
def partitionStorageMismatch (db : DuckDB) (scan : HiveScanInfo) (partition : GluePartitionInfo) :
    Except Exception (Option Exception) :=
  match scan.table with
  | none => .ok none
  | some entry =>
      let table := entry.tableInfo
      if namesTableStorage table partition then .ok none
      else do
        let storage := partitionStorage table partition
        let storedAs ← scan.storedAs db storage
        if storedAs = [] then return none
        return some (.notImplemented
          ("Partition [" ++ scan.partitionSpec partition ++ "] of Hive table '" ++ scan.describe ++
            "' is stored as " ++ storedAs ++ " (InputFormat '" ++ storage.inputFormat ++ "', SerDe '" ++
            storage.serdeLibrary ++ "'), but the table as " ++ scan.fileFormat.toText ++ " (SerDe '" ++
            table.serdeLibrary ++ "'): partitions stored in a format other than the table's can not be read yet"))

/-- `VerifyConsistentPartitionSerDe` -/
def verifyConsistentPartitionSerDe (db : DuckDB) (scan : HiveScanInfo) (partition : GluePartitionInfo) :
    Except Exception Unit := do
  match ← scan.partitionStorageMismatch db partition with
  | some exception => throw exception
  | none => return

section PartitionColumns

variable {Value : Type} (casts : ValueCasts Value) (scan : HiveScanInfo) (partition : GluePartitionInfo)

/-- The column the partition declares for the scan's column, by position in csv
tables and by name otherwise. -/
def partitionColumn (columnIndex : Nat) (name : Text) : Option GlueColumn :=
  if scan.fileFormat = .csv then partition.partitionColumns[columnIndex]?
  else partition.partitionColumns.find? fun column => ciEquals column.name name

/-- `CheckPartitionColumns` for one of the columns. A type the extension can not
map is left to the reader. -/
def checkPartitionColumn (table : GlueTableInfo) (columnIndex : Nat) : Except Exception Unit :=
  let name := scan.names.getD columnIndex []
  let type := scan.types.getD columnIndex .varchar
  match scan.partitionColumn partition columnIndex name with
  | none => .ok ()
  | some column =>
      match GlueTypes.toLogicalType (lower column.type) with
      | .error _ => .ok ()
      | .ok partitionType =>
          if GlueTypes.canReadPartitionTypeAs casts partitionType type then .ok ()
          else .error (.invalidInput
            ("Partition [" ++ scan.partitionSpec partition ++ "] of Hive table '" ++ scan.describe ++
              "' declares column '" ++ column.name ++ "' as '" ++ column.type ++
              "', which can not be read as the table's column '" ++ name ++ "' of type '" ++
              (match table.columns[columnIndex]? with
                | some tableColumn => tableColumn.type
                | none => casts.typeName type) ++
              "': the table's columns changed after the partition was created"))

/-- `CheckPartitionColumns` -/
def checkPartitionColumns (columnIndexes : List Nat) : Except Exception Unit :=
  match scan.table with
  | none => .ok ()
  | some entry =>
      if partition.partitionColumns = [] then .ok ()
      else columnIndexes.forM (checkPartitionColumn casts scan partition entry.tableInfo)

end PartitionColumns

end HiveScanInfo

namespace GlueTable

/-- `GetHiveScanFunction`: the scan of the table, its reader options decided by the
SerDe. -/
def getHiveScanFunction (db : DuckDB) (catalogName : Text) (entry : GlueTable) :
    Except Exception HiveScanInfo := do
  let table := entry.tableInfo
  let fileFormat ← table.getFileFormat
  if fileFormat.isText then
    table.checkTextSerdeSupported db fileFormat
  let csvOptions ← if fileFormat = .csv then table.getCSVOptions db else pure {}
  let jsonOptions ← if fileFormat = .json then table.getJSONOptions else pure {}
  return {
    catalogName, fileFormat, csvOptions, jsonOptions
    databaseName := table.schemaName
    tableName := table.name
    table := some entry
    rootLocation := table.location
    names := entry.columns.map (·.1)
    types := entry.columns.map (·.2)
    partitionKeys := table.partitionKeys.map (·.name) }

/-- `GetScanFunction`: only Hive tables can be read. -/
def getScanFunction (db : DuckDB) (catalogName : Text) (entry : GlueTable) : Except Exception HiveScanInfo :=
  let table := entry.tableInfo
  let format := table.getFormat
  if !format.isHive then
    .error (.notImplemented
      ("Glue table '" ++ table.schemaName ++ "." ++ table.name ++ "' has table format " ++
        format.describe table ++ ", which can not be read yet; use glue_get_table_response() to inspect its " ++
        "definition"))
  else if table.isPartitionProjected then
    .error (.notImplemented
      ("Glue table '" ++ table.schemaName ++ "." ++ table.name ++ "' uses Athena partition projection " ++
        "(projection.enabled), which is not supported yet: Athena derives its partitions from the projection.* " ++
        "parameters and ignores the ones registered in Glue, so a scan of the registered ones would read no rows " ++
        "or the wrong ones. Set projection.enabled to false and register the partitions to read it"))
  else entry.getHiveScanFunction db catalogName

end GlueTable

end DuckGlue
