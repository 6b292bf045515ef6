import DuckGlue.Core.GlueInfo

/-! # Table formats

Which open table format a Glue table is stored in, and what that was read from.
The table parameters announce a format first, then another engine's InputFormat
class reveals one; any storage descriptor left over is a plain Hive table.
-/

namespace DuckGlue

open StringUtil

inductive GlueFormat where
  | iceberg
  | delta
  | hudi
  | symlink
  | hive
  | unknown
  deriving Repr, DecidableEq

inductive GlueFormatSource where
  | parameters
  | inputFormat
  | storageDescriptor
  | none
  deriving Repr, DecidableEq

structure GlueTableFormat where
  format : GlueFormat := .unknown
  source : GlueFormatSource := .none
  deriving Repr, DecidableEq

namespace GlueTableFormat

/-- `FromParameters`: the format the table parameters announce. -/
def fromParameters (info : GlueTableInfo) : GlueFormat :=
  let tableType := upper (info.getParameter "table_type")
  let provider := lower (info.getParameter "spark.sql.sources.provider")
  if tableType = "ICEBERG".toList then .iceberg
  else if tableType = "DELTA".toList then .delta
  else if tableType = "HUDI".toList then .hudi
  else if provider = "delta".toList then .delta
  else if provider = "iceberg".toList then .iceberg
  else if provider = "hudi".toList || provider = "org.apache.hudi".toList then .hudi
  else if info.getMetadataLocation ≠ [] then .iceberg
  else .unknown

/-- The part of a class name after its last dot. -/
def className (name : Text) : Text := name.rtakeWhile (· ≠ '.')

/-- `FromInputFormat`: the format another engine's InputFormat class reveals. -/
def fromInputFormat (inputFormat : Text) : GlueFormat :=
  let lower := lower inputFormat
  if startsWith lower "org.apache.hudi." || startsWith lower "com.uber.hoodie." ||
      startsWith (className lower) "hoodie" then .hudi
  else if className lower = "symlinktextinputformat".toList then .symlink
  else if startsWith lower "org.apache.iceberg." then .iceberg
  else if startsWith lower "io.delta." then .delta
  else .unknown

def detect (info : GlueTableInfo) : GlueTableFormat :=
  if fromParameters info ≠ .unknown then ⟨fromParameters info, .parameters⟩
  else if fromInputFormat info.inputFormat ≠ .unknown then ⟨fromInputFormat info.inputFormat, .inputFormat⟩
  else if info.inputFormat ≠ [] || info.location ≠ [] then ⟨.hive, .storageDescriptor⟩
  else {}

def isHive (format : GlueTableFormat) : Bool := format.format = .hive

def isWritable (format : GlueTableFormat) (info : GlueTableInfo) (fileFormat : HiveFileFormat) : Bool :=
  let lower := lower info.inputFormat
  format.isHive &&
    (info.inputFormat = [] ||
      match fileFormat with
      | .parquet =>
          lower = "org.apache.hadoop.hive.ql.io.parquet.mapredparquetinputformat".toList ||
          lower = "org.apache.parquet.hadoop.parquetinputformat".toList ||
          lower = "parquet.hadoop.parquetinputformat".toList ||
          lower = "parquet.hive.deprecatedparquetinputformat".toList
      | .csv | .json =>
          lower = "org.apache.hadoop.mapred.textinputformat".toList ||
          lower = "org.apache.hadoop.mapred.lib.combinetextinputformat".toList
      | .avro => lower = "org.apache.hadoop.hive.ql.io.avro.avrocontainerinputformat".toList)

def toText (format : GlueTableFormat) : Text :=
  match format.format with
  | .iceberg => "ICEBERG"
  | .delta => "DELTA"
  | .hudi => "HUDI"
  | .symlink => "SYMLINK"
  | .hive => "HIVE"
  | .unknown => "UNKNOWN"

def describe (format : GlueTableFormat) (info : GlueTableInfo) : Text :=
  match format.source with
  | .inputFormat | .storageDescriptor =>
      format.toText ++ " (input format '" ++ info.inputFormat ++ "')"
  | .none =>
      if info.glueTableType ≠ [] then "UNKNOWN (glue table type '" ++ info.glueTableType ++ "')"
      else format.toText
  | .parameters => format.toText

@[simp] theorem isHive_iff {format : GlueTableFormat} : format.isHive = true ↔ format.format = .hive := by
  simp [isHive]

theorem fromParameters_ne_hive (info : GlueTableInfo) : fromParameters info ≠ .hive := by
  unfold fromParameters
  dsimp only
  split_ifs <;> nofun

theorem fromInputFormat_ne_hive (inputFormat : Text) : fromInputFormat inputFormat ≠ .hive := by
  unfold fromInputFormat
  dsimp only
  split_ifs <;> nofun

/-- A Hive table is what neither the parameters nor the InputFormat claim. -/
theorem detect_isHive {info : GlueTableInfo} : (detect info).isHive = true ↔
    fromParameters info = .unknown ∧ fromInputFormat info.inputFormat = .unknown ∧
      (info.inputFormat ≠ [] ∨ info.location ≠ []) := by
  have announced := fromParameters_ne_hive info
  have revealed := fromInputFormat_ne_hive info.inputFormat
  unfold detect
  split_ifs with parameters inputFormat storage
  · simp [announced, parameters]
  · simp [revealed, inputFormat]
  · simpa using ⟨not_not.mp parameters, not_not.mp inputFormat, by simpa using storage⟩
  · simp at storage
    simp [storage]

/-- Only the InputFormat's letters decide, not their case. -/
theorem fromInputFormat_ciEquals {a b : Text} (same : ciEquals a b = true) :
    fromInputFormat a = fromInputFormat b := by
  simp only [fromInputFormat, ciEquals_iff.mp same]

end GlueTableFormat

/-- `GlueTableInfo::GetFormat` -/
def GlueTableInfo.getFormat (table : GlueTableInfo) : GlueTableFormat := GlueTableFormat.detect table

end DuckGlue
