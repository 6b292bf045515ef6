import DuckGlue.Core.GlueFormat
import DuckGlue.Core.GlueTypes
import DuckGlue.Lib.Fallible

/-! # CREATE TABLE

The options of CREATE TABLE, the definition they and the columns make, and what Glue
stores of it. An option that is none of its own is a table parameter of that name.
-/

namespace DuckGlue

open StringUtil Fallible

/-- A value, as the casts to VARCHAR, BOOLEAN and, from an integral type, INTEGER see it. -/
structure OptionScalar where
  text : Text
  boolean : Except Exception Bool
  integer : Option Int := none

/-- An entry of a LIST with the fields it has as a STRUCT; a missing value is NULL. -/
structure OptionEntry where
  scalar : OptionScalar
  fields : List (Text × Option OptionScalar) := []

/-- The value of an option; the entries are those of a LIST. -/
structure OptionValue where
  scalar : OptionScalar
  entries : Option (List (Option OptionEntry)) := none
  /-- The entries are STRUCTs. -/
  ofStructs : Bool := false

/-- Options accepted in CREATE TABLE ... WITH (...). -/
structure GlueCreateTableOptions where
  location : Text := []
  description : Text := []
  format : HiveFileFormat := .parquet
  csvDelimiter : Text := ","
  csvQuote : Text := []
  csvEscape : Text := []
  bucketColumns : List Text := []
  numberOfBuckets : Int := -1
  sortColumns : List GlueColumn := []
  overwrite : Bool := false
  parameters : Parameters := ∅

/-- A column as CREATE TABLE gives it. -/
structure ColumnDefinition where
  name : Text
  type : LogicalType
  comment : Option Text := none
  generated : Bool := false
  hasDefault : Bool := false
  collation : Text := []

/-- DuckDB's `ColumnList`: `AddColumn` refuses a second column of a name. -/
structure ColumnList where
  columns : List ColumnDefinition
  distinct : columns.Pairwise fun a b => ciEquals a.name b.name = false

/-- An expression of PARTITIONED BY, with its text. -/
inductive PartitionKeyExpression where
  | column (name : Text)
  | qualified (text : Text)
  | expression (text : Text)

structure CreateTableInfo where
  name : Text
  columns : ColumnList
  hasConstraints : Bool := false
  partitionKeys : List PartitionKeyExpression := []
  /-- A `case_insensitive_map_t`, in iteration order; a missing value is NULL. -/
  options : List (Text × Option OptionValue) := []
  comment : Option Text := none

/-- `HiveFileFormatFromString` -/
def hiveFileFormatFromString (format : Text) : Except Exception HiveFileFormat :=
  if lower format = "parquet".toList then .ok .parquet
  else if lower format = "csv".toList then .ok .csv
  else if lower format = "json".toList then .ok .json
  else if lower format = "avro".toList then .ok .avro
  else .error (.binder ("Unknown Hive file format '" ++ format ++ "', expected 'parquet', 'csv', 'json' or 'avro'"))

namespace GlueTableInfo

/-- `IsBucketed` -/
def isBucketed (table : GlueTableInfo) : Bool := table.bucketColumns ≠ []

end GlueTableInfo

/-- `DescribeSortOrder` -/
def GlueColumn.describeSortOrder (column : GlueColumn) : Text :=
  match column.sortOrder with
  | .ascending => "ASC"
  | .descending => "DESC"
  | .unsorted => []

/-- `DescribeBucketing` -/
def GlueTableInfo.describeBucketing (table : GlueTableInfo) : Text :=
  "clustered by (" ++ join table.bucketColumns ", " ++ ")" ++
    (if table.numberOfBuckets > 0 then " into " ++ (toString table.numberOfBuckets).toList ++ " buckets" else []) ++
    if table.sortColumns ≠ [] then
      ", sorted by (" ++ join (table.sortColumns.map fun column => column.name ++ " " ++ column.describeSortOrder) ", " ++ ")"
    else []

namespace GlueSchemaEntry

/-- `EvaluateOptions` -/
def evaluateOptions (options : List (Text × Option OptionValue)) (statement : Text) :
    Except Exception (List (Text × OptionValue)) :=
  options.mapM fun option =>
    match option.2 with
    | some value => .ok (option.1, value)
    | none => .error (.binder ("NULL is not a valid value for " ++ statement ++ " option '" ++ option.1 ++ "'"))

def isBucketingOption (key : Text) : Bool :=
  ciEquals key "BucketColumns" || ciEquals key "NumberOfBuckets" || ciEquals key "SortColumns"

/-- `LookupSpelling` -/
def lookupSpelling (spellings : List (Text × Text)) (key : Text) : Text :=
  ((spellings.find? fun spelling => ciEquals spelling.1 key).map (·.2)).getD []

/-- `BucketingOptionFor`: the option another spelling of a bucketing option stands for. -/
def bucketingOptionFor (key : Text) : Text :=
  lookupSpelling [("bucket_columns", "BucketColumns"), ("bucketed_by", "BucketColumns"),
    ("clustered_by", "BucketColumns"), ("number_of_buckets", "NumberOfBuckets"),
    ("bucket_count", "NumberOfBuckets"), ("sort_columns", "SortColumns"), ("sorted_by", "SortColumns")] key

/-- `OtherEngineOptionFor`: what to use for an option of another engine. -/
def otherEngineOptionFor (key : Text) : Text :=
  lookupSpelling [("partitioned_by", "a PARTITIONED BY (...) clause"),
    ("partitioning", "a PARTITIONED BY (...) clause"), ("external_location", "option 'location'"),
    ("field_delimiter", "option 'delimiter'")] key

/-- `CheckBucketedTablesEnabled`, by the setting glue_create_bucketed_tables. -/
def checkBucketedTablesEnabled (enabled : Bool) (key : Text) : Except Exception Unit :=
  if enabled then .ok ()
  else .error (.binder ("CREATE TABLE option '" ++ key ++ "' creates a bucketed Glue table, which DuckDB can read " ++
    "but not write (INSERT into it is refused). SET glue_create_bucketed_tables = true to create one"))

/-- `ParseBucketColumns` -/
def parseBucketColumns (key : Text) (value : OptionValue) : Except Exception (List Text) := do
  let some entries := value.entries
    | throw (.binder ("CREATE TABLE option '" ++ key ++ "' must be a list of column names, e.g. ['id'], got '" ++
        value.scalar.text ++ "'"))
  let result ← entries.mapM fun entry =>
    match entry with
    | some entry => .ok entry.scalar.text
    | none => .error (.binder ("CREATE TABLE option '" ++ key ++ "' can not contain NULL"))
  if result = [] then
    throw (.binder ("CREATE TABLE option '" ++ key ++ "' needs at least one column"))
  return result

/-- `ParseNumberOfBuckets` -/
def parseNumberOfBuckets (key : Text) (value : OptionValue) : Except Exception Int :=
  match value.scalar.integer with
  | some count =>
      if count ≤ 0 then refuse else .ok count
  | none => refuse
where
  refuse : Except Exception Int :=
    .error (.binder ("CREATE TABLE option '" ++ key ++ "' must be a positive integer, got '" ++ value.scalar.text ++ "'"))

/-- `ParseSortOrder` -/
def parseSortOrder (key : Text) (value : OptionScalar) : Except Exception GlueSortOrder :=
  if value.integer = some 1 then .ok .ascending
  else if value.integer = some 0 then .ok .descending
  else .error (.binder ("SortOrder in CREATE TABLE option '" ++ key ++ "' must be 1 (ascending) or 0 (descending), got '" ++
    value.text ++ "'"))

/-- The fields of one entry of SortColumns. -/
def parseSortFields (key : Text) : GlueColumn → List (Text × Option OptionScalar) → Except Exception GlueColumn
  | column, [] => .ok column
  | column, (field, value) :: fields => do
      if !ciEquals field "Column" && !ciEquals field "SortOrder" then
        throw (.binder ("CREATE TABLE option '" ++ key ++ "' takes structs of 'Column' and 'SortOrder', got '" ++ field ++ "'"))
      match value with
      | none => parseSortFields key column fields
      | some value =>
          if ciEquals field "Column" then parseSortFields key { column with name := value.text } fields
          else
            let order ← parseSortOrder key value
            parseSortFields key { column with sortOrder := order } fields

/-- `ParseSortColumns` -/
def parseSortColumns (key : Text) (value : OptionValue) : Except Exception (List GlueColumn) := do
  let some entries := value.entries.filter fun _ => value.ofStructs
    | throw (.binder ("CREATE TABLE option '" ++ key ++ "' must be a list of \x7b'Column': name, 'SortOrder': 1 or 0\x7d, got '" ++
        value.scalar.text ++ "'"))
  let result ← entries.mapM fun entry =>
    match entry with
    | none => throw (.binder ("CREATE TABLE option '" ++ key ++ "' can not contain NULL"))
    | some entry => do
        let column ← parseSortFields key {} entry.fields
        if column.name = [] || column.sortOrder = .unsorted then
          throw (.binder ("Every entry of CREATE TABLE option '" ++ key ++
            "' needs a 'Column' and a 'SortOrder', got '" ++ entry.scalar.text ++ "'"))
        return column
  if result = [] then
    throw (.binder ("CREATE TABLE option '" ++ key ++ "' needs at least one column"))
  return result

/-- One option of `ParseCreateTableOptions`; the setting allows bucketed tables. -/
def parseOption (bucketedTables : Bool) (result : GlueCreateTableOptions) (option : Text × OptionValue) :
    Except Exception GlueCreateTableOptions := do
  let (key, value) := option
  let stringValue := value.scalar.text
  if ciEquals key "type" then
    if upper stringValue ≠ "HIVE".toList then
      throw (.binder ("Unknown Glue table type '" ++ stringValue ++ "' for option 'type', only 'HIVE' is supported"))
    return result
  else if ciEquals key "format" then
    let format ← hiveFileFormatFromString stringValue
    return { result with format }
  else if ciEquals key "location" then
    return { result with location := rtrim stringValue '/' }
  else if ciEquals key "comment" then
    return { result with description := stringValue }
  else if ciEquals key "delimiter" || ciEquals key "quote" || ciEquals key "escape" then
    if size stringValue ≠ 1 then
      throw (.binder ("CREATE TABLE option '" ++ key ++ "' must be a single character, got '" ++ stringValue ++ "'"))
    if ciEquals key "delimiter" then return { result with csvDelimiter := stringValue }
    else if ciEquals key "quote" then return { result with csvQuote := stringValue }
    else return { result with csvEscape := stringValue }
  else if ciEquals key "overwrite" then
    let overwrite ← value.scalar.boolean
    return { result with overwrite }
  else if ciEquals key "header" then
    let header ← value.scalar.boolean
    if header then
      return { result with parameters := result.parameters.insert "skip.header.line.count".toList "1".toList }
    else return result
  else if isBucketingOption key then
    checkBucketedTablesEnabled bucketedTables key
    if ciEquals key "BucketColumns" then
      let bucketColumns ← parseBucketColumns key value
      return { result with bucketColumns }
    else if ciEquals key "NumberOfBuckets" then
      let numberOfBuckets ← parseNumberOfBuckets key value
      return { result with numberOfBuckets }
    else
      let sortColumns ← parseSortColumns key value
      return { result with sortColumns }
  else if bucketingOptionFor key ≠ [] then
    throw (.binder ("Unknown CREATE TABLE option '" ++ key ++ "', a bucketed Glue table is created with option '" ++
      bucketingOptionFor key ++ "'"))
  else if otherEngineOptionFor key ≠ [] then
    throw (.binder ("Unknown CREATE TABLE option '" ++ key ++ "', use " ++ otherEngineOptionFor key ++ " instead"))
  else return { result with parameters := result.parameters.insert key stringValue }

/-- `ParseCreateTableOptions` -/
def parseCreateTableOptions (bucketedTables : Bool) (options : List (Text × Option OptionValue)) :
    Except Exception GlueCreateTableOptions := do
  let options ← evaluateOptions options "CREATE TABLE"
  options.foldlM (parseOption bucketedTables) {}

/-- `CheckNoDuplicates` -/
def checkNoDuplicates (option : Text) : List Text → List Text → Except Exception Unit
  | _, [] => .ok ()
  | seen, name :: names => do
      if seen.any (ciEquals name ·) then
        throw (.binder (option ++ " lists column '" ++ name ++ "' twice"))
      checkNoDuplicates option (seen ++ [name]) names

/-- The column a bucketing option names, as the table spells it. -/
def resolveColumn (columns : ColumnList) (partitionColumns : List Text) (tableName option name : Text) :
    Except Exception Text :=
  if partitionColumns.any (ciEquals · name) then
    .error (.binder (option ++ " column '" ++ name ++ "' is a partition column of table '" ++ tableName ++ "'"))
  else
    match columns.columns.find? fun column => ciEquals column.name name with
    | some column => .ok column.name
    | none => .error (.binder (option ++ " column '" ++ name ++ "' is not a column of table '" ++ tableName ++ "'"))

/-- `ResolveBucketing` -/
def resolveBucketing (options : GlueCreateTableOptions) (columns : ColumnList) (partitionColumns : List Text)
    (tableName : Text) : Except Exception GlueCreateTableOptions := do
  if options.bucketColumns = [] then
    if options.numberOfBuckets ≠ -1 || options.sortColumns ≠ [] then
      throw (.binder "CREATE TABLE options NumberOfBuckets and SortColumns need BucketColumns")
    return options
  if options.numberOfBuckets = -1 then
    throw (.binder "CREATE TABLE option BucketColumns needs NumberOfBuckets")
  let bucketColumns ← options.bucketColumns.mapM (resolveColumn columns partitionColumns tableName "BucketColumns")
  let sortColumns ← options.sortColumns.mapM fun sortColumn => do
    let name ← resolveColumn columns partitionColumns tableName "SortColumns" sortColumn.name
    return { sortColumn with name }
  checkNoDuplicates "BucketColumns" [] bucketColumns
  checkNoDuplicates "SortColumns" [] (sortColumns.map (·.name))
  return { options with bucketColumns, sortColumns }

/-- `ThrowIfCollated` -/
def throwIfCollated (collation columnName : Text) : Except Exception Unit :=
  if collation ≠ [] then
    .error (.notImplemented ("Collation \"" ++ collation ++ "\" of column \"" ++ columnName ++
      "\" is not supported for tables in a Glue catalog"))
  else .ok ()

/-- `ThrowIfUnsupportedColumn` -/
def throwIfUnsupportedColumn (column : ColumnDefinition) : Except Exception Unit := do
  if column.generated then
    throw (.notImplemented ("Generated column \"" ++ column.name ++ "\" is not supported for tables in a Glue catalog"))
  if column.hasDefault then
    throw (.notImplemented ("Default value of column \"" ++ column.name ++
      "\" is not supported for tables in a Glue catalog"))
  throwIfCollated column.collation column.name

/-- The columns of PARTITIONED BY, in its order. -/
def partitionColumnsOf (tableName : Text) (columns : ColumnList) :
    List Text → List PartitionKeyExpression → Except Exception (List Text)
  | found, [] => .ok found
  | _, .expression text :: _ =>
      .error (.binder ("PARTITIONED BY for Hive tables only supports column names, got '" ++ text ++ "'"))
  | _, .qualified text :: _ =>
      .error (.binder ("PARTITIONED BY for Hive tables only supports plain column names, got '" ++ text ++ "'"))
  | found, .column name :: keys => do
      if !columns.columns.any (ciEquals ·.name name) then
        throw (.binder ("PARTITIONED BY column '" ++ name ++ "' is not a column of table '" ++ tableName ++ "'"))
      if found.any (ciEquals · name) then
        throw (.binder ("PARTITIONED BY column '" ++ name ++ "' is listed twice for table '" ++ tableName ++ "'"))
      partitionColumnsOf tableName columns (found ++ [name]) keys

variable (typeName : LogicalType → Text)

/-- What Glue stores of a column. -/
def glueColumn (column : ColumnDefinition) : Except Exception GlueColumn := do
  let type ← GlueTypes.fromLogicalType typeName column.type
  return { name := column.name, type, comment := column.comment.getD [] }

/-- The SerDe `BuildTableInfo` chooses for a csv table, with its parameters: with a
quote or escape character OpenCSVSerde, without both LazySimpleSerDe. -/
def csvSerDe (options : GlueCreateTableOptions) : Text × Parameters :=
  if options.csvQuote = [] && options.csvEscape = [] then
    ("org.apache.hadoop.hive.serde2.lazy.LazySimpleSerDe",
      ((∅ : Parameters).insert "field.delim".toList options.csvDelimiter).insert
        "serialization.format".toList options.csvDelimiter)
  else
    let quote := if options.csvQuote = [] then "\"".toList else options.csvQuote
    ("org.apache.hadoop.hive.serde2.OpenCSVSerde",
      (((∅ : Parameters).insert "separatorChar".toList options.csvDelimiter).insert "quoteChar".toList quote).insert
        "escapeChar".toList (if options.csvEscape = [] then quote else options.csvEscape))

/-- The option's location, or the one the catalog gives the table. -/
def locationOf (tableLocation : Except Exception Text) (options : GlueCreateTableOptions) : Except Exception Text :=
  if options.location = [] then tableLocation else .ok options.location

/-- The definition of the options, the location and the columns. -/
def plannedTable (schemaName : Text) (base : CreateTableInfo) (options : GlueCreateTableOptions) (location : Text)
    (columns partitionKeys : List GlueColumn) : GlueTableInfo where
  name := base.name
  schemaName := schemaName
  location := location
  columns := columns
  partitionKeys := partitionKeys
  description := if options.description = [] then base.comment.getD [] else options.description
  parameters := options.parameters
  fileFormat := options.format
  serdeLibrary := if options.format = .csv then (csvSerDe options).1 else []
  serdeParameters := if options.format = .csv then (csvSerDe options).2 else ∅
  bucketColumns := options.bucketColumns
  numberOfBuckets := options.numberOfBuckets
  sortColumns := options.sortColumns

/-- The columns that are not in the PARTITIONED BY. -/
def dataColumns (columns : ColumnList) (partitionColumns : List Text) : List ColumnDefinition :=
  columns.columns.filter fun column => !partitionColumns.any (ciEquals · column.name)

/-- The columns of the PARTITIONED BY, in its order. -/
def keyColumns (columns : ColumnList) (partitionColumns : List Text) : List ColumnDefinition :=
  partitionColumns.filterMap fun name => columns.columns.find? fun column => ciEquals column.name name

/-- `BuildTableInfo`; `tableLocation` is where the catalog puts a table that names no
location. -/
def buildTableInfo (bucketedTables : Bool) (schemaName : Text) (tableLocation : Except Exception Text)
    (base : CreateTableInfo) : Except Exception GlueTableInfo := do
  if base.hasConstraints then
    throw (.notImplemented "Constraints are not supported when creating tables in a Glue catalog")
  base.columns.columns.forM throwIfUnsupportedColumn
  let options ← parseCreateTableOptions bucketedTables base.options
  let partitionColumns ← partitionColumnsOf base.name base.columns [] base.partitionKeys
  let options ← resolveBucketing options base.columns partitionColumns base.name
  let location ← locationOf tableLocation options
  let columns ← (dataColumns base.columns partitionColumns).mapM (glueColumn typeName)
  let partitionKeys ← (keyColumns base.columns partitionColumns).mapM (glueColumn typeName)
  if columns = [] then
    throw (.binder ("Table '" ++ base.name ++ "' needs at least one column that is not a partition column"))
  return plannedTable schemaName base options location columns partitionKeys

/-- The steps of `BuildTableInfo` that passed. -/
structure Planned (bucketedTables : Bool) (schemaName : Text) (tableLocation : Except Exception Text)
    (base : CreateTableInfo) (parsed options : GlueCreateTableOptions) (partitionColumns : List Text)
    (planned : GlueTableInfo) : Prop where
  supported : ∀ column ∈ base.columns.columns, throwIfUnsupportedColumn column = .ok ()
  parses : parseCreateTableOptions bucketedTables base.options = .ok parsed
  partitioned : partitionColumnsOf base.name base.columns [] base.partitionKeys = .ok partitionColumns
  bucketed : resolveBucketing parsed base.columns partitionColumns base.name = .ok options
  location : locationOf tableLocation options = .ok planned.location
  columns : (dataColumns base.columns partitionColumns).mapM (glueColumn typeName) = .ok planned.columns
  partitionKeys : (keyColumns base.columns partitionColumns).mapM (glueColumn typeName) = .ok planned.partitionKeys
  someColumn : planned.columns ≠ []
  table : planned = plannedTable schemaName base options planned.location planned.columns planned.partitionKeys

theorem buildTableInfo_ok {bucketedTables : Bool} {schemaName : Text} {tableLocation : Except Exception Text}
    {base : CreateTableInfo} {planned : GlueTableInfo}
    (built : buildTableInfo typeName bucketedTables schemaName tableLocation base = .ok planned) :
    ∃ parsed options partitionColumns,
      Planned typeName bucketedTables schemaName tableLocation base parsed options partitionColumns planned := by
  unfold buildTableInfo at built
  simp only [guard_throw_eq_ok, pure_eq_ok, bind_eq_ok, exists_unit_ok] at built
  obtain ⟨_, supported, parsed, parse, partitionColumns, partitioned, options, bucketed, location, located, columns,
    stored, partitionKeys, keys, someColumn, rfl⟩ := built
  exact ⟨parsed, options, partitionColumns, forM_eq_ok.mp supported, parse, partitioned, bucketed, located, stored, keys,
    someColumn, rfl⟩

end GlueSchemaEntry

/-- `emplace`: a key that is there keeps its value. -/
def Parameters.emplace (parameters : Parameters) (key value : Text) : Parameters :=
  if (parameters.lookup key).isSome then parameters else parameters.insert key value

namespace GlueAPI

/-- The SerDe, its parameters and the InputFormat `CreateHiveTable` writes for the file
format. -/
def storageOf (table : GlueTableInfo) : Text × Parameters × Text :=
  match table.fileFormat with
  | .parquet => ("org.apache.hadoop.hive.ql.io.parquet.serde.ParquetHiveSerDe",
      (∅ : Parameters).insert "serialization.format".toList "1".toList,
      "org.apache.hadoop.hive.ql.io.parquet.MapredParquetInputFormat")
  | .csv => (table.serdeLibrary, table.serdeParameters, "org.apache.hadoop.mapred.TextInputFormat")
  | .json => ("org.apache.hive.hcatalog.data.JsonSerDe", ∅, "org.apache.hadoop.mapred.TextInputFormat")
  | .avro => ("org.apache.hadoop.hive.serde2.avro.AvroSerDe", ∅,
      "org.apache.hadoop.hive.ql.io.avro.AvroContainerInputFormat")

/-- The table parameters `CreateHiveTable` writes. -/
def createdParameters (table : GlueTableInfo) : Except Exception Parameters := do
  let classified := table.parameters.emplace "classification" table.fileFormat.toText
  let described ←
    if table.fileFormat = .csv then do
      let serde ← table.getSerDe
      match table.serdeParameters.lookup (if serde = .openCsv then "separatorChar".toList else "field.delim".toList) with
      | some delimiter => pure (classified.emplace "delimiter" delimiter)
      | none => throw ⟨.outOfRange, "unordered_map::at"⟩
    else pure classified
  let external := described.emplace "EXTERNAL" "TRUE"
  return if table.description = [] then external else external.emplace "comment" table.description

/-- What a fetch gives of the table `CreateHiveTable` sent, with the version and time
Glue gave it. -/
def createHiveTable (table : GlueTableInfo) (versionId : Text) (createTimeMs : Int) : Except Exception GlueTableInfo := do
  if table.location = [] then
    throw (.invalidInput ("Can not create Hive table '" ++ table.schemaName ++ "." ++ table.name ++ "' without a location"))
  let parameters ← createdParameters table
  let (serdeLibrary, serdeParameters, inputFormat) := storageOf table
  return {
    name := table.name, schemaName := table.schemaName, location := table.location
    glueTableType := "EXTERNAL_TABLE"
    description := table.description
    inputFormat, serdeLibrary, serdeParameters, parameters
    columns := table.columns, partitionKeys := table.partitionKeys
    bucketColumns := table.bucketColumns, numberOfBuckets := table.numberOfBuckets
    sortColumns := table.sortColumns.map fun column =>
      { name := column.name, sortOrder := if column.sortOrder = .descending then .descending else .ascending }
    versionId, createTimeMs }

end GlueAPI

end DuckGlue
