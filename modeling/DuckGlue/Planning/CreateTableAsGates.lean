import DuckGlue.Catalog.CreatedTable
import DuckGlue.Planning.GlueHiveInsert
import DuckGlue.Planning.TextFields

/-! # What CREATE TABLE AS plans to write

The plan is made from the definition the options give, before Glue has it. The table it
creates is then read and written through the gates of any other, and of these the plan
asks all but one: whether the parameters announce another format than Hive.
-/

namespace DuckGlue

open StringUtil GlueSchemaEntry GlueTableInfo Fallible

namespace GlueTableInfo

variable (table : GlueTableInfo)

def getCodecParameter (key : Text) : Text :=
  let codec := table.getParameter key
  if codec = [] then table.getParameter "write_compression" else codec

/-- `GetTextCompression`, as the name of the compression; `FileCompressionType` gives the
one a codec stands for, none if that is no compression. -/
def getTextCompression (compression : Text → Except Exception (Option Text)) : Except Exception (Option Text) := do
  let codec := table.getCodecParameter "write.compression"
  let codec := if codec = [] then table.getParameter "compressionType" else codec
  if codec = [] then return none
  match ← compression codec with
  | none => return none
  | some name =>
      if name ≠ "gzip".toList && name ≠ "zstd".toList then
        throw (.notImplemented ("Can not write to Hive table '" ++ table.schemaName ++ "." ++ table.name ++
          "': it records " ++ name ++ " compression, DuckDB writes only gzip and zstd compressed csv and json files"))
      return some name

/-- `GetCodec` -/
def getCodec (compression : Text → Except Exception (Option Text)) : HiveFileFormat → Except Exception Text
  | .parquet =>
      let codec := lower (table.getCodecParameter "parquet.compression")
      .ok (if codec = "none".toList then "uncompressed" else codec)
  | .avro =>
      let codec := lower (table.getCodecParameter "avro.output.codec")
      if codec = "none".toList || codec = "uncompressed".toList then .ok "null"
      else if codec ≠ [] && codec ≠ "snappy".toList && codec ≠ "deflate".toList && codec ≠ "null".toList then
        .error (.notImplemented ("Can not write to Hive table '" ++ table.schemaName ++ "." ++ table.name ++
          "': it records " ++ codec ++ " compression, DuckDB writes only snappy and deflate compressed avro files"))
      else .ok codec
  | .csv | .json => do
      let name ← table.getTextCompression compression
      return name.getD []

def getCompressionLevel : Text := table.getParameter "compression_level"

end GlueTableInfo

inductive OnCreateConflict where
  | errorOnConflict
  | ignoreOnConflict
  | replaceOnConflict
  deriving Repr, DecidableEq

/-- What a CREATE TABLE AS is planned from. -/
structure LogicalCreateTable where
  base : CreateTableInfo
  onConflict : OnCreateConflict := .errorOnConflict
  /-- It has a SORTED BY. -/
  sorted : Bool := false

/-- The copy of a plan, with the definition it writes to. -/
structure GlueHiveCopy where
  table : GlueTableInfo
  location : Text
  partitionColumns : List PartitionColumn
  fileFormat : HiveFileFormat
  codec : Text
  /-- Only of zstd compressed parquet files. -/
  compressionLevel : Text
  /-- Only of csv files. -/
  textFields : Option TextFields

namespace GlueHiveInsert

variable (db : DuckDB) (compression : Text → Except Exception (Option Text)) (typeName : LogicalType → Text)

/-- `PlanWrite` for a table to create, whose file format is that of the options. -/
def planWrite (table : GlueTableInfo) (columns : List (Text × LogicalType)) : Except Exception GlueHiveCopy := do
  let partitionColumns ← partitionColumns table columns
  if table.fileFormat = .csv || table.fileFormat = .json then
    table.checkTextSerdeSupported db table.fileFormat
  let codec ← table.getCodec compression table.fileFormat
  let textFields ← if table.fileFormat = .csv then some <$> planTextFields db table else pure none
  return {
    table, partitionColumns, codec, textFields
    location := rtrim table.location '/'
    fileFormat := table.fileFormat
    compressionLevel :=
      if table.fileFormat = .parquet && codec = "zstd".toList then table.getCompressionLevel else [] }

/-- `PlanCreateTableAs` -/
def planCreateTableAs (bucketedTables : Bool) (schemaName : Text) (tableLocation : Except Exception Text)
    (op : LogicalCreateTable) : Except Exception GlueHiveCopy := do
  op.base.options.forM fun option =>
    if isBucketingOption option.1 then
      throw (.notImplemented ("CREATE TABLE ... AS with option '" ++ option.1 ++ "' is not supported: it creates a " ++
        "bucketed Glue table, and DuckDB does not write a bucketed layout"))
    else pure ()
  if op.onConflict = .replaceOnConflict then
    let options ← parseCreateTableOptions bucketedTables op.base.options
    if options.overwrite then
      throw (.notImplemented ("CREATE OR REPLACE TABLE ... AS with option 'overwrite' is not supported: its " ++
        "files would be deleted before the table is replaced"))
  -- `SupportsCreateTable`
  if op.sorted then
    throw (.catalog ("SORTED BY is not supported for tables in a Glue catalog, the sort " ++
      "order of a bucketed table is the SortColumns option"))
  let table ← buildTableInfo typeName bucketedTables schemaName tableLocation op.base
  if table.isPartitionProjected then
    throw (.notImplemented ("CREATE TABLE ... AS for Glue table '" ++ table.name ++ "' is not supported: with " ++
      "'projection.enabled' on a partitioned table it would use Athena partition projection, which this " ++
      "extension cannot read yet. Set projection.enabled to false; the partitions the " ++
      "statement writes are then registered in Glue and readable"))
  planWrite db compression table (op.base.columns.columns.map fun column => (column.name, column.type))

end GlueHiveInsert

/-- The gates of reading a table and of DML on it. -/
structure PassesGates (db : DuckDB) (table : GlueTableInfo) : Prop where
  hive : table.getFormat.isHive = true
  writable : ∃ format, table.getFileFormat = .ok format ∧ table.getFormat.isWritable table format = true ∧
    (format = .csv ∨ format = .json → table.checkTextSerdeSupported db format = .ok ())
  notProjected : table.isPartitionProjected = false
  notBucketed : table.isBucketed = false

/-- An open table format that the options name as one of its parameters. -/
def announcesFormat (options : List (Text × Option OptionValue)) : Bool :=
  let text := fun key : Text => (optionText options key).getD []
  upper (text "table_type") ∈ ["ICEBERG".toList, "DELTA".toList, "HUDI".toList] ||
    lower (text "spark.sql.sources.provider") ∈
      ["delta".toList, "iceberg".toList, "hudi".toList, "org.apache.hudi".toList] ||
    text "metadata_location" ≠ []

section Gates

variable {db : DuckDB} {compression : Text → Except Exception (Option Text)} {typeName : LogicalType → Text}
  {bucketedTables : Bool} {schemaName : Text} {tableLocation : Except Exception Text} {op : LogicalCreateTable}
  {copy : GlueHiveCopy} {table stored : GlueTableInfo}

/-- What a plan has passed of its definition. -/
structure PlanPassed (db : DuckDB) (typeName : LogicalType → Text) (bucketedTables : Bool) (schemaName : Text)
    (tableLocation : Except Exception Text) (base : CreateTableInfo) (table : GlueTableInfo) : Prop where
  noBucketing : ∀ option ∈ base.options, isBucketingOption option.1 = false
  built : buildTableInfo typeName bucketedTables schemaName tableLocation base = .ok table
  notProjected : table.isPartitionProjected = false
  text : table.fileFormat = .csv ∨ table.fileFormat = .json → table.checkTextSerdeSupported db table.fileFormat = .ok ()

theorem planWrite_ok {columns : List (Text × LogicalType)}
    (planned : GlueHiveInsert.planWrite db compression table columns = .ok copy) : copy.table = table ∧
      (table.fileFormat = .csv ∨ table.fileFormat = .json →
        table.checkTextSerdeSupported db table.fileFormat = .ok ()) := by
  unfold GlueHiveInsert.planWrite at planned
  cases format : table.fileFormat with
  | parquet | avro =>
      simp only [format, reduceCtorEq, decide_false, Bool.or_self, Bool.false_eq_true, if_false, bind_eq_ok,
        pure_eq_ok] at planned
      obtain ⟨_, _, _, _, _, _, rfl⟩ := planned
      refine ⟨rfl, fun isText => ?_⟩
      simp at isText
  | csv | json =>
      simp only [format, reduceCtorEq, decide_false, decide_true, Bool.or_true, Bool.true_or, if_true, if_false,
        bind_eq_ok, pure_eq_ok, exists_unit_ok] at planned
      obtain ⟨_, _, supported, _, _, _, _, rfl⟩ := planned
      exact ⟨rfl, fun _ => supported⟩

theorem planCreateTableAs_passed
    (planned : GlueHiveInsert.planCreateTableAs db compression typeName bucketedTables schemaName tableLocation op =
      .ok copy) : PlanPassed db typeName bucketedTables schemaName tableLocation op.base copy.table := by
  unfold GlueHiveInsert.planCreateTableAs at planned
  simp only [bind_eq_ok, exists_unit_ok, forM_eq_ok, stop_throw_eq_ok, pure_eq_ok, and_true] at planned
  obtain ⟨noBucketing, planned⟩ := planned
  have built : ∃ table, buildTableInfo typeName bucketedTables schemaName tableLocation op.base = .ok table ∧
      table.isPartitionProjected = false ∧ GlueHiveInsert.planWrite db compression table
        (op.base.columns.columns.map fun column => (column.name, column.type)) = .ok copy := by
    by_cases replace : op.onConflict = .replaceOnConflict
    · simp only [replace, if_true, bind_eq_ok, guard_throw_eq_ok, Bool.not_eq_true] at planned
      obtain ⟨_, _, _, _, built⟩ := planned
      exact built
    · simp only [replace, if_false, bind_eq_ok, guard_throw_eq_ok, Bool.not_eq_true] at planned
      exact planned.2
  obtain ⟨table, built, notProjected, written⟩ := built
  obtain ⟨rfl, text⟩ := planWrite_ok written
  exact ⟨fun option member => by simpa using noBucketing option member, built, notProjected, text⟩

/-- No parameter announces an open table format. -/
theorem fromParameters_eq_unknown : GlueTableFormat.fromParameters table = .unknown ↔
    upper (table.getParameter "table_type") ∉ ["ICEBERG".toList, "DELTA".toList, "HUDI".toList] ∧
      lower (table.getParameter "spark.sql.sources.provider") ∉
        ["delta".toList, "iceberg".toList, "hudi".toList, "org.apache.hudi".toList] ∧
      table.getParameter "metadata_location" = [] := by
  unfold GlueTableFormat.fromParameters GlueTableInfo.getMetadataLocation
  dsimp only
  generalize upper (table.getParameter "table_type") = tableType
  generalize lower (table.getParameter "spark.sql.sources.provider") = provider
  generalize table.getParameter "metadata_location" = metadata
  simp only [List.mem_cons, List.not_mem_nil, or_false, not_or]
  split_ifs with iceberg delta hudi sparkDelta sparkIceberg sparkHudi given
  · exact iff_of_false nofun fun none => none.1.1 iceberg
  · exact iff_of_false nofun fun none => none.1.2.1 delta
  · exact iff_of_false nofun fun none => none.1.2.2 hudi
  · exact iff_of_false nofun fun none => none.2.1.1 sparkDelta
  · exact iff_of_false nofun fun none => none.2.1.2.1 sparkIceberg
  · rw [Bool.or_eq_true, decide_eq_true_eq, decide_eq_true_eq] at sparkHudi
    refine iff_of_false nofun fun none => ?_
    rcases sparkHudi with hudi | apache
    · exact none.2.1.2.2.1 hudi
    · exact none.2.1.2.2.2 apache
  · exact iff_of_false nofun fun none => given none.2.2
  · rw [Bool.or_eq_true, decide_eq_true_eq, decide_eq_true_eq, not_or] at sparkHudi
    exact iff_of_true rfl ⟨⟨iceberg, delta, hudi⟩, ⟨sparkDelta, sparkIceberg, sparkHudi⟩, not_not.mp given⟩

/-- What the gates of text files look at. -/
structure SameText (table other : GlueTableInfo) : Prop where
  name : other.name = table.name
  schemaName : other.schemaName = table.schemaName
  columns : other.columns = table.columns
  property : ∀ key, key ∉ GlueAPI.createdKeys → other.tryGetProperty key = table.tryGetProperty key

namespace SameText

variable {other : GlueTableInfo} (same : SameText table other)

include same

theorem getCountProperty {key : Text} (notCreated : key ∉ GlueAPI.createdKeys) :
    other.getCountProperty db key = table.getCountProperty db key := by
  simp only [GlueTableInfo.getCountProperty, same.property key notCreated, same.name, same.schemaName]

theorem getOpenCSVCharacter {key fallback : Text} (notCreated : key ∉ GlueAPI.createdKeys) :
    other.getOpenCSVCharacter key fallback = table.getOpenCSVCharacter key fallback := by
  simp only [GlueTableInfo.getOpenCSVCharacter, same.property key notCreated, same.name, same.schemaName]

theorem propertyIs {key value : Text} (notCreated : key ∉ GlueAPI.createdKeys) :
    other.propertyIs key value = table.propertyIs key value := by
  simp only [GlueTableInfo.propertyIs, same.property key notCreated]

theorem json (supported : table.checkTextSerdeSupported db .json = .ok ()) :
    other.checkTextSerdeSupported db .json = .ok () := by
  unfold GlueTableInfo.checkTextSerdeSupported GlueTableInfo.getHeaderLineCount at supported ⊢
  simp only [if_true, bind_eq_ok, stop_eq_ok (refuse_eq_error _), guard_eq_ok (refuse_eq_error _), pure_eq_ok, and_true] at supported ⊢
  rw [same.getCountProperty (by decide), same.getCountProperty (by decide)]
  exact supported

variable (serde : other.getSerDe = table.getSerDe)

include serde

theorem getQuoteCharacter : other.getQuoteCharacter = table.getQuoteCharacter := by
  simp only [GlueTableInfo.getQuoteCharacter, serde,
    same.getOpenCSVCharacter (by decide : "quoteChar".toList ∉ GlueAPI.createdKeys)]

theorem getEscapeCharacter : other.getEscapeCharacter = table.getEscapeCharacter := by
  simp only [GlueTableInfo.getEscapeCharacter, serde, same.getQuoteCharacter serde,
    same.getOpenCSVCharacter (by decide : "escapeChar".toList ∉ GlueAPI.createdKeys),
    same.property _ (by decide : "escape.delim".toList ∉ GlueAPI.createdKeys)]

theorem getFieldDelimiter : other.getFieldDelimiter db = table.getFieldDelimiter db := by
  simp only [GlueTableInfo.getFieldDelimiter, GlueTableInfo.lazySimpleSeparator, serde,
    same.getOpenCSVCharacter (by decide : "separatorChar".toList ∉ GlueAPI.createdKeys),
    same.property _ (by decide : "field.delim".toList ∉ GlueAPI.createdKeys),
    same.property _ (by decide : "serialization.format".toList ∉ GlueAPI.createdKeys), same.name, same.schemaName]

theorem getNullFormat : other.getNullFormat = table.getNullFormat := by
  simp only [GlueTableInfo.getNullFormat, serde,
    same.property _ (by decide : "serialization.null.format".toList ∉ GlueAPI.createdKeys)]

theorem csv (supported : table.checkTextSerdeSupported db .csv = .ok ()) :
    other.checkTextSerdeSupported db .csv = .ok () := by
  rw [checkTextSerdeSupported_csv] at supported ⊢
  obtain ⟨footer, flat, decided, known, settings⟩ := supported
  rw [same.getCountProperty (by decide), same.columns, serde]
  refine ⟨footer, flat, decided, known, ?_⟩
  split_ifs at settings ⊢
  · obtain ⟨quote, escape, quoted, escaped, oneByte⟩ := settings
    exact ⟨quote, escape, (same.getQuoteCharacter serde).trans quoted, (same.getEscapeCharacter serde).trans escaped, oneByte⟩
  · obtain ⟨escape, delimiter, nullFormat, settings⟩ := settings
    refine ⟨escape, delimiter, nullFormat, ?_⟩
    constructor
    · exact (same.getEscapeCharacter serde).trans settings.escaped
    · exact settings.oneByte
    · exact (same.getFieldDelimiter serde).trans settings.delimited
    · exact settings.differs
    · rw [same.propertyIs (by decide)]
      exact settings.lineBreaks
    · rw [same.property _ (by decide)]
      exact settings.encoding
    · rw [same.propertyIs (by decide)]
      exact settings.lastColumn
    · exact (same.getNullFormat serde).trans settings.nulls
    · exact settings.undelimited

end SameText

/-- The definition of a plan: no bucketing, the parameters of its options, and for csv
one of the two SerDes. -/
theorem PlanPassed.definition (passed : PlanPassed db typeName bucketedTables schemaName tableLocation op.base table) :
    ∃ parsed, parseCreateTableOptions bucketedTables op.base.options = .ok parsed ∧ table.bucketColumns = [] ∧
      table.parameters = parsed.parameters ∧
      (table.fileFormat = .csv → table.serdeLibrary = (csvSerDe parsed).1) ∧
      (table.fileFormat ≠ .csv → table.serdeParameters = ∅) := by
  obtain ⟨parsed, options, partitionColumns, planned⟩ := buildTableInfo_ok typeName passed.built
  have none := parseCreateTableOptions_bucketColumns passed.noBucketing planned.parses
  have unbucketed := planned.bucketed
  unfold resolveBucketing at unbucketed
  simp only [none, if_true, guard_throw_eq_ok, pure_eq_ok] at unbucketed
  obtain ⟨_, rfl⟩ := unbucketed
  refine ⟨parsed, planned.parses, ?_, ?_, ?_, ?_⟩
  · rw [planned.table]
    exact none
  · rw [planned.table]
    rfl
  · rw [planned.table]
    exact fun csv => if_pos csv
  · rw [planned.table]
    exact fun notCsv => if_neg notCsv

/-- Glue has a table of the file format the options name. -/
theorem getFileFormat_created (csv : table.fileFormat = .csv → ∃ parsed, table.serdeLibrary = (csvSerDe parsed).1)
    (created : GlueAPI.Created table stored) : stored.getFileFormat = .ok table.fileFormat := by
  have storage := congrArg Prod.fst created.storage
  unfold GlueAPI.storageOf at storage
  unfold GlueTableInfo.getFileFormat GlueTableInfo.getSerDe
  cases format : table.fileFormat with
  | csv =>
      obtain ⟨parsed, library⟩ := csv format
      simp only [format] at storage
      rw [storage, library]
      unfold csvSerDe
      split_ifs <;> rfl
  | parquet | json | avro =>
      simp only [format] at storage
      rw [storage]
      rfl

/-- The InputFormat is one Hive uses for the file format. -/
theorem isWritable_created (created : GlueAPI.Created table stored) (hive : stored.getFormat.isHive = true) :
    stored.getFormat.isWritable stored table.fileFormat = true := by
  have storage := congrArg (fun storage => storage.2.2) created.storage
  unfold GlueAPI.storageOf at storage
  unfold GlueTableFormat.isWritable
  cases format : table.fileFormat with
  | parquet | csv | json | avro =>
      simp only [format] at storage
      rw [hive, storage]
      decide +kernel

theorem isHive_created (created : GlueAPI.Created table stored) :
    stored.getFormat.isHive = true ↔ GlueTableFormat.fromParameters stored = .unknown := by
  have storage := congrArg (fun storage => storage.2.2) created.storage
  have hiveClass : GlueTableFormat.fromInputFormat stored.inputFormat = .unknown ∧ stored.inputFormat ≠ [] := by
    unfold GlueAPI.storageOf at storage
    cases format : table.fileFormat with
    | parquet | csv | json | avro =>
        simp only [format] at storage
        rw [storage]
        decide +kernel
  exact GlueTableFormat.detect_isHive.trans ⟨fun hive => hive.1, fun unknown => ⟨unknown, hiveClass.1, .inl hiveClass.2⟩⟩

/-- The parameters of a created table that decide its format are those of the options. -/
theorem fromParameters_created (distinct : op.base.options.Pairwise fun a b => ciEquals a.1 b.1 = false)
    (passed : PlanPassed db typeName bucketedTables schemaName tableLocation op.base table)
    (created : GlueAPI.Created table stored) :
    GlueTableFormat.fromParameters stored = .unknown ↔ announcesFormat op.base.options = false := by
  obtain ⟨parsed, parses, _, parameters, _⟩ := passed.definition
  have kept : ∀ key, isCreateTableOption key = false → ciEquals "skip.header.line.count" key = false →
      (∀ other ∈ GlueAPI.createdKeys, ciEquals other key = false) →
      stored.getParameter key = (optionText op.base.options key).getD [] := by
    intro key foreign notHeader notCreated
    rw [getParameter_eq, GlueAPI.inAnyCase_createdParameters created.parameters notCreated, parameters,
      parseCreateTableOptions_inAnyCase distinct foreign notHeader parses]
  rw [fromParameters_eq_unknown, kept "table_type" (by decide +kernel) (by decide) (by decide),
    kept "spark.sql.sources.provider" (by decide +kernel) (by decide) (by decide),
    kept "metadata_location" (by decide +kernel) (by decide) (by decide)]
  simp only [announcesFormat, Bool.or_eq_false_iff, decide_eq_false_iff_not, not_not, and_assoc]

/-- A created table passes every gate unless its options announce another format. -/
theorem createTableAs_passesGates_iff (distinct : op.base.options.Pairwise fun a b => ciEquals a.1 b.1 = false)
    (planned : GlueHiveInsert.planCreateTableAs db compression typeName bucketedTables schemaName tableLocation op =
      .ok copy) {versionId : Text} {createTimeMs : Int}
    (made : GlueAPI.createHiveTable copy.table versionId createTimeMs = .ok stored) :
    PassesGates db stored ↔ announcesFormat op.base.options = false := by
  have passed := planCreateTableAs_passed planned
  have created := GlueAPI.createHiveTable_ok made
  have announced := fromParameters_created distinct passed created
  obtain ⟨parsed, parses, unbucketed, parameters, csv, notCsv⟩ := passed.definition
  constructor
  · intro gates
    exact announced.mp ((isHive_created created).mp gates.hive)
  · intro quiet
    have hive := (isHive_created created).mpr (announced.mpr quiet)
    constructor
    · exact hive
    · refine ⟨copy.table.fileFormat, getFileFormat_created (fun isCsv => ⟨parsed, csv isCsv⟩) created,
        isWritable_created created hive, ?_⟩
      have storage := created.storage
      intro isText
      have supported := passed.text isText
      have same : SameText copy.table stored := by
        refine ⟨created.name, created.schemaName, created.columns, ?_⟩
        intro key notCreated
        have serdeParameters : stored.serdeParameters = copy.table.serdeParameters := by
          have parameters := congrArg (fun storage => storage.2.1) storage
          unfold GlueAPI.storageOf at parameters
          rcases isText with isCsv | isJson
          · simpa only [isCsv] using parameters
          · rw [notCsv (by rw [isJson]; decide)]
            simpa only [isJson] using parameters
        rw [GlueTableInfo.tryGetProperty, GlueAPI.lookup_createdParameters created.parameters notCreated, serdeParameters]
        rfl
      rcases isText with isCsv | isJson
      · have library := congrArg Prod.fst storage
        rw [isCsv] at supported ⊢
        apply same.csv _ supported
        unfold GlueTableInfo.getSerDe
        simp only [GlueAPI.storageOf, isCsv] at library
        rw [library, created.name, created.schemaName]
      · rw [isJson] at supported ⊢
        exact same.json supported
    · have projected := passed.notProjected
      unfold GlueTableInfo.isPartitionProjected at projected ⊢
      rw [getParameter_eq, GlueAPI.inAnyCase_createdParameters created.parameters (by decide), created.partitionKeys]
      exact projected
    · unfold GlueTableInfo.isBucketed
      rw [created.bucketColumns, unbucketed]
      rfl

end Gates

section Examples

theorem idColumn_distinct :
    [({ name := "id", type := .integer } : ColumnDefinition)].Pairwise fun a b => ciEquals a.name b.name = false :=
  List.pairwise_singleton _ _

/-- `CREATE TABLE events WITH (location = ..., <key> = <value>) AS SELECT 1 AS id`. -/
def createEvents (key value : Text) : LogicalCreateTable where
  base := {
    name := "events"
    columns := ⟨[{ name := "id", type := .integer }], idColumn_distinct⟩
    options := [("location", some ⟨⟨"s3://bucket/events", .ok true, none⟩, none, false⟩),
      (key, some ⟨⟨value, .ok true, none⟩, none, false⟩)] }

def planEvents (key value : Text) : Except Exception GlueHiveCopy :=
  GlueHiveInsert.planCreateTableAs noIntegers (fun _ => .ok none) (fun _ => "INTEGER") false "db"
    (.error (.invalidInput "no location")) (createEvents key value)

/-- A table that is planned, created and then refused as an Iceberg table. -/
theorem createTableAs_announcesIceberg : ∃ copy stored, planEvents "table_type" "iceberg" = .ok copy ∧
    GlueAPI.createHiveTable copy.table "0" 0 = .ok stored ∧ ¬ PassesGates noIntegers stored := by
  refine ⟨_, _, rfl, rfl, fun gates => ?_⟩
  have hive := gates.hive
  revert hive
  decide +kernel

theorem createTableAs_passesGates_owner : ∃ copy stored, planEvents "owner" "alice" = .ok copy ∧
    GlueAPI.createHiveTable copy.table "0" 0 = .ok stored ∧ PassesGates noIntegers stored := by
  have passes := fun copy stored (planned : planEvents "owner" "alice" = .ok copy)
      (made : GlueAPI.createHiveTable copy.table "0" 0 = .ok stored) =>
    (createTableAs_passesGates_iff (by decide : (createEvents "owner" "alice").base.options.Pairwise _) planned made).mpr
      (by decide +kernel)
  exact ⟨_, _, rfl, rfl, passes _ _ rfl rfl⟩

end Examples

end DuckGlue
