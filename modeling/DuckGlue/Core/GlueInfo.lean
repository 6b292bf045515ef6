import Mathlib.Data.List.AList
import Mathlib.Data.List.Sort
import DuckGlue.Core.StringUtil

/-! # Glue tables and partitions

The projections of Glue's Table and Partition objects, and how a table's SerDe,
its parameters and its SerDe parameters decide the way its files are read.
-/

namespace DuckGlue

open StringUtil

/-- An `unordered_map<string, string>`; the entries stand in iteration order. -/
abbrev Parameters := AList (fun _ : Text => Text)

/-- `operator==` of `unordered_map`, which ignores the iteration order. -/
def Parameters.same (a b : Parameters) : Bool := decide (a.entries.Perm b.entries)

theorem Parameters.lookup_same {a b : Parameters} (h : a.same b = true) (key : Text) :
    a.lookup key = b.lookup key :=
  AList.perm_lookup (of_decide_eq_true h)

/-- What the extension calls in DuckDB and the model takes as given. -/
structure DuckDB where
  /-- `Value(value).DefaultTryCastAs(LogicalType::BIGINT)` -/
  tryCastBigint : Text → Option Int

inductive GlueSortOrder where
  | unsorted
  | ascending
  | descending
  deriving Repr, DecidableEq

structure GlueColumn where
  name : Text := []
  /-- The Glue (Hive style) type string. -/
  type : Text := []
  comment : Text := []
  /-- Only set for the columns a table is sorted by. -/
  sortOrder : GlueSortOrder := .unsorted
  deriving Repr, DecidableEq

/-- The file format of a Hive table's data files, decided by its SerDe. -/
inductive HiveFileFormat where
  | parquet
  | csv
  | json
  | avro
  deriving Repr, DecidableEq

def HiveFileFormat.toText : HiveFileFormat → Text
  | .parquet => "parquet"
  | .csv => "csv"
  | .json => "json"
  | .avro => "avro"

/-- `IsTextFileFormat` -/
def HiveFileFormat.isText (format : HiveFileFormat) : Bool := format = .csv || format = .json

/-- The SerDe of a Hive table, decided by its SerializationLibrary. -/
inductive HiveSerDe where
  | parquet
  | lazySimple
  | openCsv
  | hiveJson
  | openxJson
  | avro
  deriving Repr, DecidableEq

/-- `HiveSerDeFileFormat` -/
def HiveSerDe.fileFormat : HiveSerDe → HiveFileFormat
  | .parquet => .parquet
  | .lazySimple => .csv
  | .openCsv => .csv
  | .hiveJson => .json
  | .openxJson => .json
  | .avro => .avro

/-- How the files of a csv table are read. -/
structure HiveCSVOptions where
  delimiter : Text := ","
  quote : Text := "\""
  escape : Text := "\""
  skipLines : Nat := 0
  nullString : Text := []
  serdeFields : Bool := false
  nullForInvalidData : Bool := true
  falseUnlessTrue : Bool := false
  fieldEscape : Text := []
  epochFields : Bool := false
  deriving Repr, DecidableEq

/-- How the files of a json table are read. -/
structure HiveJSONOptions where
  ignoreErrors : Bool := false
  caseInsensitiveKeys : Bool := true
  unsupportedProperties : List Text := []
  deriving Repr, DecidableEq

/-- A Glue Table, as far as reading and writing its files looks at it. -/
structure GlueTableInfo where
  name : Text := []
  schemaName : Text := []
  /-- The Glue TableType as written, not the open table format. -/
  glueTableType : Text := []
  description : Text := []
  location : Text := []
  inputFormat : Text := []
  serdeLibrary : Text := []
  serdeParameters : Parameters := ∅
  columns : List GlueColumn := []
  partitionKeys : List GlueColumn := []
  bucketColumns : List Text := []
  /-- -1 if Glue did not record it, 0 for Hive's unbucketed. -/
  numberOfBuckets : Int := -1
  sortColumns : List GlueColumn := []
  parameters : Parameters := ∅
  /-- Empty for a definition not fetched from Glue. -/
  versionId : Text := []
  createTimeMs : Int := 0
  /-- The file format to create the table with. -/
  fileFormat : HiveFileFormat := .parquet

/-- A partition of a Hive table as registered in Glue. -/
structure GluePartitionInfo where
  values : List Text
  location : Text
  /-- The partition's own StorageDescriptor; empty when not known. -/
  inputFormat : Text := []
  serdeLibrary : Text := []
  serdeParameters : Parameters := ∅
  partitionColumns : List GlueColumn := []

/-- A partition to register. -/
structure GluePartitionInput where
  values : List Text
  location : Text
  deriving Repr, DecidableEq

/-- `TryParseInteger` -/
def tryParseInteger (db : DuckDB) (value : Text) (min max : Int) : Option Int :=
  if value = [] then none
  else (db.tryCastBigint value).filter fun result => min ≤ result && result ≤ max

/-- `TryFirstCharacter` -/
def tryFirstCharacter : Text → Option Text
  | [] => none
  | c :: _ => some [c]

namespace GlueTableInfo

variable (db : DuckDB) (table : GlueTableInfo)

/-- `GetParameter`: a table parameter, its key in any case. -/
def getParameter (key : Text) : Text :=
  ((table.parameters.entries.find? fun entry => ciEquals entry.1 key).map (·.2)).getD []

def getMetadataLocation : Text := table.getParameter "metadata_location"

/-- `GetSerDe` -/
def getSerDe : Except Exception HiveSerDe :=
  let serde := lower table.serdeLibrary
  if contains serde "parquet" then .ok .parquet
  else if contains serde "lazysimpleserde" then .ok .lazySimple
  else if contains serde "opencsvserde" then .ok .openCsv
  else if contains serde "openx" then .ok .openxJson
  else if contains serde "json" then .ok .hiveJson
  else if contains serde "avro" then .ok .avro
  else .error (.notImplemented
    ("Hive table '" ++ table.schemaName ++ "." ++ table.name ++ "' uses SerDe '" ++ table.serdeLibrary ++
      "', only parquet (ParquetHiveSerDe), csv (LazySimpleSerDe, OpenCSVSerde), json (JsonSerDe) and avro " ++
      "(AvroSerDe) tables can be read and written; use glue_get_table_response() to inspect the table definition"))

/-- `GetFileFormat` -/
def getFileFormat : Except Exception HiveFileFormat := do
  let serde ← table.getSerDe
  return serde.fileFormat

/-- `TryGetProperty`: the table's parameters override the SerDe's, and keys are
case-sensitive. -/
def tryGetProperty (key : Text) : Option Text :=
  table.parameters.lookup key <|> table.serdeParameters.lookup key

/-- A property set to `value` in any case. -/
def propertyIs (key value : Text) : Bool :=
  (table.tryGetProperty key).any (ciEquals · value)

/-- `GetOpenCSVCharacter` -/
def getOpenCSVCharacter (key fallback : Text) : Except Exception Text :=
  match table.tryGetProperty key with
  | none | some [] => .ok fallback
  | some value =>
      match tryFirstCharacter value with
      | some character => .ok character
      | none => .error (.invalidInput
          ("Hive table '" ++ table.schemaName ++ "." ++ table.name ++ "' has an invalid '" ++ key ++
            "' of '" ++ value ++ "', expected text"))

/-- `LazySimpleSeparator`: a byte code from -128 to 127, else the first byte.
A character of more than one byte starts with a byte from 0x80 on. -/
def lazySimpleSeparator (value : Text) : Except Exception Text :=
  match value with
  | [] => .ok ['\x01']
  | first :: _ =>
      let separator := match tryParseInteger db value (-128) 127 with
        | some number => (number % 256).toNat
        | none => first.toNat
      if separator = 0 ∨ separator = 10 ∨ separator = 13 ∨ 0x80 ≤ separator then
        .error (.notImplemented
          ("Hive table '" ++ table.schemaName ++ "." ++ table.name ++ "' has the field delimiter '" ++ value ++
            "', a byte DuckDB can not split fields on; only ASCII delimiters other than NUL and line breaks " ++
            "are supported"))
      else .ok [Char.ofNat separator]

def getFieldDelimiter : Except Exception Text := do
  let serde ← table.getSerDe
  if serde = .openCsv then table.getOpenCSVCharacter "separatorChar" ","
  else
    table.lazySimpleSeparator db
      ((table.tryGetProperty "field.delim" <|> table.tryGetProperty "serialization.format").getD [])

def getNullFormat : Except Exception Text := do
  let serde ← table.getSerDe
  if serde = .openCsv then return []
  else return (table.tryGetProperty "serialization.null.format").getD "\\N".toList

/-- `GetCountProperty` -/
def getCountProperty (key : Text) : Except Exception Nat :=
  match table.tryGetProperty key with
  | none | some [] => .ok 0
  | some value =>
      match tryParseInteger db value 0 2147483647 with
      | some count => .ok count.toNat
      | none => .error (.invalidInput
          ("Hive table '" ++ table.schemaName ++ "." ++ table.name ++ "' has an invalid '" ++ key ++
            "' of '" ++ value ++ "', expected a non-negative number"))

def getHeaderLineCount : Except Exception Nat := table.getCountProperty db "skip.header.line.count"

def getQuoteCharacter : Except Exception Text := do
  let serde ← table.getSerDe
  if serde = .openCsv then table.getOpenCSVCharacter "quoteChar" "\"" else return []

def getEscapeCharacter : Except Exception Text := do
  let serde ← table.getSerDe
  if serde = .openCsv then
    let quote ← table.getQuoteCharacter
    table.getOpenCSVCharacter "escapeChar" quote
  else return (table.tryGetProperty "escape.delim").getD []

/-- The refusal of `CheckTextSerdeSupported`. -/
def refuse (what : Text) : Except Exception Unit :=
  .error (.notImplemented ("Hive table '" ++ table.schemaName ++ "." ++ table.name ++ "' " ++ what ++
    ", which DuckDB can not read or write"))

/-- The part of `CheckTextSerdeSupported` only LazySimpleSerDe tables go through. -/
def checkLazySimpleSupported : Except Exception Unit := do
  let escape ← table.getEscapeCharacter
  if size escape > 1 then
    table.refuse "has an 'escape.delim' of more than one byte"
  let delimiter ← table.getFieldDelimiter db
  if escape = delimiter then
    table.refuse "has its field delimiter as 'escape.delim'"
  if table.propertyIs "serialization.escape.crlf" "true" then
    table.refuse "has 'serialization.escape.crlf' set"
  match table.tryGetProperty "serialization.encoding" with
  | some value =>
      if !ciEquals value "UTF-8" && !ciEquals value "UTF8" then
        table.refuse ("has the 'serialization.encoding' '" ++ value ++ "' (DuckDB reads UTF-8)")
  | none => pure ()
  if table.propertyIs "serialization.last.column.takes.rest" "true" then
    table.refuse "has 'serialization.last.column.takes.rest' set"
  let nullFormat ← table.getNullFormat
  if contains nullFormat delimiter then
    table.refuse ("has the field delimiter '" ++ delimiter ++ "' in its NULL string '" ++ nullFormat ++ "'")

/-- `CheckTextSerdeSupported` -/
def checkTextSerdeSupported (format : HiveFileFormat) : Except Exception Unit := do
  let footer ← table.getCountProperty db "skip.footer.line.count"
  if footer > 0 then
    table.refuse "has 'skip.footer.line.count' set"
  if format = .json then
    let header ← table.getHeaderLineCount db
    if header > 0 then
      table.refuse "has 'skip.header.line.count' set on JSON files"
  else
    match table.columns.find? fun column => column.type.contains '<' with
    | some column =>
        table.refuse ("has the nested column '" ++ column.name ++ "' (" ++ column.type ++
          "), stored with collection delimiters")
    | none => pure ()
    let serde ← table.getSerDe
    if serde = .openCsv then
      let quote ← table.getQuoteCharacter
      let escape ← table.getEscapeCharacter
      if size quote > 1 || size escape > 1 then
        table.refuse "has a quoteChar or escapeChar of more than one byte"
    else table.checkLazySimpleSupported db

/-- `GetCSVOptions` -/
def getCSVOptions : Except Exception HiveCSVOptions := do
  let delimiter ← table.getFieldDelimiter db
  let quote ← table.getQuoteCharacter
  let escape ← table.getEscapeCharacter
  let skipLines ← table.getHeaderLineCount db
  let serde ← table.getSerDe
  let nullFormat ← table.getNullFormat
  let escapeSet := (table.tryGetProperty "escapeChar").any (· ≠ [])
  return {
    delimiter, quote, escape, skipLines
    -- OpenCSVSerde has no NULL: a line break matches no unquoted field
    nullString := if serde = .openCsv then "\n" else nullFormat
    serdeFields := true
    nullForInvalidData := serde ≠ .openCsv || table.propertyIs "use.null.for.invalid.data" "true"
    falseUnlessTrue := serde = .openCsv
    fieldEscape :=
      if serde = .openCsv && !escapeSet && delimiter ≠ "\\".toList && quote ≠ "\\".toList then "\\" else []
    epochFields := serde = .openCsv }

end GlueTableInfo

/-- What a SerDe property of a JSON table changes. -/
inductive JsonSerDePropertyEffect where
  | ignoreErrorsIfTrue
  | exactKeysIfFalse
  | notAppliedIfTrue
  | notAppliedIfSet
  deriving Repr, DecidableEq

structure JsonSerDeProperty where
  serde : HiveSerDe
  name : Text
  /-- The name is a prefix. -/
  isPrefix : Bool
  effect : JsonSerDePropertyEffect
  deriving Repr, DecidableEq

/-- `JSON_SERDE_PROPERTIES` -/
def jsonSerDeProperties : List JsonSerDeProperty := [
  ⟨.openxJson, "ignore.malformed.json", false, .ignoreErrorsIfTrue⟩,
  ⟨.openxJson, "use.null.for.invalid.data", false, .ignoreErrorsIfTrue⟩,
  ⟨.openxJson, "case.insensitive", false, .exactKeysIfFalse⟩,
  ⟨.openxJson, "mapping.", true, .notAppliedIfSet⟩,
  ⟨.openxJson, "dots.in.keys", false, .notAppliedIfTrue⟩,
  ⟨.hiveJson, "timestamp.formats", false, .notAppliedIfSet⟩]

/-- `PropertyKeys`: the keys of the table that are the property, or start with it
if it is a prefix. -/
def propertyKeys (table : GlueTableInfo) (property : JsonSerDeProperty) : List Text :=
  if property.isPrefix then
    ((table.parameters.keys ++ table.serdeParameters.keys).filter (startsWith · property.name)).dedup
  else [property.name]

namespace HiveJSONOptions

/-- What one key of a property with this value adds to the options. -/
def apply (effect : JsonSerDePropertyEffect) (key value : Text) (result : HiveJSONOptions) : HiveJSONOptions :=
  match effect with
  | .ignoreErrorsIfTrue => { result with ignoreErrors := result.ignoreErrors || ciEquals value "true" }
  | .exactKeysIfFalse =>
      if ciEquals value "false" then { result with caseInsensitiveKeys := false } else result
  | .notAppliedIfTrue =>
      if ciEquals value "true" then
        { result with unsupportedProperties := result.unsupportedProperties ++ [key] }
      else result
  | .notAppliedIfSet =>
      if value ≠ [] then { result with unsupportedProperties := result.unsupportedProperties ++ [key] }
      else result

/-- One property of the table the options are read from. -/
def applyProperty (table : GlueTableInfo) (result : HiveJSONOptions) (property : JsonSerDeProperty) :
    HiveJSONOptions :=
  (propertyKeys table property).foldl (fun result key =>
    match table.tryGetProperty key with
    | some value => result.apply property.effect key value
    | none => result) result

/-- `FromTable` -/
def fromTable (table : GlueTableInfo) : Except Exception HiveJSONOptions := do
  let serde ← table.getSerDe
  let result := (jsonSerDeProperties.filter (·.serde = serde)).foldl (applyProperty table) {}
  return { result with unsupportedProperties := result.unsupportedProperties.insertionSort (· ≤ ·) }

end HiveJSONOptions

namespace GlueTableInfo

def getJSONOptions (table : GlueTableInfo) : Except Exception HiveJSONOptions :=
  HiveJSONOptions.fromTable table

/-- `IsView` -/
def isView (table : GlueTableInfo) : Bool := ciEquals table.glueTableType "VIRTUAL_VIEW"

/-- `IsSameVersion`: Glue's CreateTime has whole seconds, so the type is compared
as well. -/
def isSameVersion (table other : GlueTableInfo) : Bool :=
  table.versionId ≠ [] && table.versionId = other.versionId &&
    table.createTimeMs = other.createTimeMs && table.glueTableType = other.glueTableType

theorem isSameVersion_symm {table other : GlueTableInfo} (same : table.isSameVersion other = true) :
    other.isSameVersion table = true := by
  simp only [isSameVersion, Bool.and_eq_true, decide_eq_true_eq] at same ⊢
  obtain ⟨⟨⟨known, version⟩, time⟩, type⟩ := same
  exact ⟨⟨⟨version ▸ known, version.symm⟩, time.symm⟩, type.symm⟩

/-- The library decides the SerDe, whatever else differs. -/
theorem getSerDe_congr {table other : GlueTableInfo} {serde : HiveSerDe}
    (library : lower table.serdeLibrary = lower other.serdeLibrary) (decided : table.getSerDe = .ok serde) :
    other.getSerDe = .ok serde := by
  unfold getSerDe at decided ⊢
  simp only [library] at decided
  dsimp only at decided ⊢
  split_ifs at decided ⊢ <;> simp_all

def isPartitionProjected (table : GlueTableInfo) : Bool :=
  table.partitionKeys ≠ [] && ciEquals (trim (table.getParameter "projection.enabled")) "true"

end GlueTableInfo

end DuckGlue
