import DuckGlue.Core.GlueTypes
import DuckGlue.Core.HiveLocation
import DuckGlue.Lib.Fallible

/-! # Writing to a Hive table

The copy of an INSERT writes each row to the directory an expression over its key
values gives: the location of the existing partition it belongs to, or the hive
directory of its values. Afterwards the directories written to are registered with
the values their partition has, or the values read back from the path.
-/

namespace DuckGlue

open StringUtil

/-- DuckDB's `HivePartitioning`: names and values escaped for a path; and its `Path`. -/
structure HivePartitioning where
  escape : Text → Text
  escapeValue : Text → Text
  unescape : Text → Text
  /-- `Path::Normalize` -/
  normalizePath : Text → Text
  /-- `Path::FromString` of a location, with a path joined, as a string. -/
  joinPath : Text → Text → Text
  unescape_escape : ∀ text, unescape (escape text) = text
  unescape_escapeValue : ∀ text, unescape (escapeValue text) = text
  unescape_default : unescape defaultPartitionName = defaultPartitionName
  escape_plain : ∀ text, '/' ∉ escape text ∧ '=' ∉ escape text
  escapeValue_plain : ∀ text, '/' ∉ escapeValue text
  joinPath_plain : ∀ location parts, normalizePath location = location → location ≠ [] → location ≠ ['.'] →
    location.getLast? ≠ some '/' → (∀ part ∈ parts, part ≠ [] ∧ part ≠ ['.'] ∧ part ≠ ['.', '.'] ∧ '/' ∉ part) →
      joinPath location (join parts ['/']) = location ++ '/' :: join parts ['/']

/-- The values of the partition keys, with their text and their comparison. -/
structure KeyCasts (Value : Type) extends ValueCasts Value where
  /-- `Value::ToString`, the cast to VARCHAR. -/
  toText : Value → Text
  /-- Whether `=` holds. -/
  equals : Value → Value → Bool

/-- A value is the one its text is cast back to, and is no spelling of NULL where
the path does not check for these. -/
structure KeyCasts.Faithful {Value : Type} (casts : KeyCasts Value) (type : LogicalType) (value : Value) : Prop where
  reads : ∃ back, (if type.same .varchar then some (casts.ofText (casts.toText value))
    else casts.tryCastAs (casts.toText value) type) = some back ∧ casts.equals value back = true
  spelled : type.same .varchar = false → type.same .blob = false →
    GlueTypes.partitionValueIsNull (casts.toText value) type = false

/-- `IS NOT DISTINCT FROM` -/
def KeyCasts.notDistinct {Value : Type} (casts : KeyCasts Value) : Option Value → Option Value → Bool
  | none, none => true
  | some a, some b => casts.equals a b
  | _, _ => false

/-- A partition column of the rows: the catalog's name and type. -/
abbrev PartitionColumn := Text × LogicalType

/-- A check of the `CASE` of the partition path: the path or error of the rows it
applies to. -/
structure PathCheck (Value : Type) where
  applies : List (Option Value) → Bool
  path : Except Exception Text

/-- The `PARTITION_PATH` of a copy. -/
structure PartitionPath (Value : Type) where
  checks : List (PathCheck Value)
  hivePath : List (Option Value) → Text
  /-- The locations of the existing partitions by their values. -/
  plannedLocations : List (List Text × Text)
  /-- The directories of the partitions at other locations, with their values. -/
  partitionDirectories : List (Text × List Text)

/-- An existing partition with the values of its keys. -/
structure PlannedPartition (Value : Type) where
  partition : GluePartitionInfo
  values : List (Option Value)

/-- `RelativePartitionPath`, and whether the copy can write there. -/
def relativePartitionPath (tableLocation partitionLocation : Text) : Text × Bool :=
  let pre := comparableLocation tableLocation ++ ['/']
  let location := comparableLocation partitionLocation
  if startsWith location pre then
    let components := split (location.drop pre.length) '/'
    let skipped (component : Text) : Bool := component = [] || component = ['.']
    (join (components.filter fun component => !skipped component) ['/'], !components.any skipped)
  else ([], true)

/-- The partition columns of the rows, by the keys of the table. -/
def partitionColumns (table : GlueTableInfo) (columns : List (Text × LogicalType)) :
    Except Exception (List PartitionColumn) :=
  table.partitionKeys.mapM fun key =>
    match columns.find? fun column => ciEquals column.1 key.name with
    | some column => .ok column
    | none => .error (.internal ("Partition key '" ++ key.name ++ "' of Hive table '" ++ table.name ++
        "' not found in the rows to insert"))

namespace GlueHiveInsert

section PartitionPath

variable {Value : Type} (hive : HivePartitioning) (casts : KeyCasts Value) (table : GlueTableInfo)
  (location : Text) (columns : List PartitionColumn)

/-- A value of Glue in a path; the one of NULL is kept as is. -/
def escapedText (value : Text) : Text :=
  if value = defaultPartitionName then value else hive.escapeValue value

/-- `HivePartitionDirectory` -/
def hivePartitionDirectory (keys values : List Text) : Text :=
  join (List.zipWith (fun key value => hive.escape key ++ ['='] ++ escapedText hive value) keys values) ['/']

/-- A value of a row in a path. -/
def escapedValue (value : Option Value) : Text :=
  match value with
  | none => defaultPartitionName
  | some value => hive.escapeValue (casts.toText value)

/-- `hive_partition_component` of a value. -/
def hivePartitionComponent (key : Text) (value : Option Value) : Text :=
  hive.escape key ++ ['='] ++ escapedValue hive casts value

/-- `hive_path`: the hive directory of a row. -/
def hivePath (row : List (Option Value)) : Text :=
  join (List.zipWith (fun column value => hivePartitionComponent hive casts column.1 value) columns row) ['/']

/-- The value as an INSERT would register it. -/
def canonicalValue (value : Option Value) : Text :=
  match value with
  | none => defaultPartitionName
  | some value => casts.toText value

/-- A value that is not NULL but whose text reads back as NULL. -/
def readsBackAsNull (type : LogicalType) (value : Option Value) : Bool :=
  match value with
  | some value =>
      let text := casts.toText value
      text = defaultPartitionName || (!type.same .varchar && (lower text = "null" || text = []))
  | none => false

def nullValueError (column : PartitionColumn) : Exception :=
  .invalidInput ("Writing to Hive table '" ++ table.schemaName ++ "." ++ table.name ++
    "' is not supported: partition key '" ++ column.1 ++ "' has a value ('" ++ defaultPartitionName ++ "'" ++
    (if column.2.same .varchar then [] else ", 'NULL' in any case, or ''".toList) ++ ") that Hive reads back as NULL")

/-- The check of `AddNullValueChecks` for the column at `index`: only strings and
blobs have such a value. -/
def nullValueCheck (index : Nat) (column : PartitionColumn) : Option (PathCheck Value) :=
  if !column.2.same .varchar && !column.2.same .blob then none
  else some ⟨fun row => readsBackAsNull casts column.2 row[index]?.join, .error (nullValueError table column)⟩

/-- `AddNullValueChecks` -/
def nullValueChecks : List (PathCheck Value) :=
  columns.zipIdx.filterMap fun (column, index) => nullValueCheck casts table index column

/-- The values Glue stores, as values of the keys. -/
def keyValues (values : List Text) : Except Exception (List (Option Value)) :=
  (table.partitionKeys.zip (columns.zip values)).mapM fun (key, column, value) =>
    GlueTypes.partitionValue casts.toValueCasts key.name value column.2

/-- An existing partition, its values cast to the types of the keys. -/
def plannedPartition (partition : GluePartitionInfo) : Except Exception (PlannedPartition Value) :=
  if partition.values.length ≠ columns.length then
    .error (.invalidInput ("Partition [" ++ join partition.values ", " ++ "] of Hive table '" ++ table.name ++
      "' has " ++ toString partition.values.length ++ " values, but the table has " ++ toString columns.length ++
      " partition keys"))
  else do
    let values ← keyValues casts table columns partition.values
    return { partition, values }

end PartitionPath

end GlueHiveInsert

namespace PlannedPartition

open GlueHiveInsert

variable {Value : Type} (hive : HivePartitioning) (casts : KeyCasts Value) (table : GlueTableInfo)
  (location : Text) (columns : List PartitionColumn) (byPosition : Bool) (planned : PlannedPartition Value)

def canonicalValues : List Text := planned.values.map (canonicalValue casts)

/-- The first column the partition declares with another type than the table. -/
def mismatch : Option Nat := planned.partition.findColumnTypeMismatch table.columns byPosition

/-- Registered as an INSERT would register it: its rows need no check. -/
def isCanonical : Bool :=
  let (relativePath, writable) := relativePartitionPath location planned.partition.location
  planned.mismatch table byPosition = none &&
    relativePath = hivePartitionDirectory hive (columns.map (·.1)) (planned.canonicalValues casts) && writable &&
    planned.partition.values = planned.canonicalValues casts

/-- The row's key values are those of the partition. -/
def matchesRow (row : List (Option Value)) : Bool :=
  List.Forall₂ (fun value own => casts.notDistinct value own = true) row planned.values

/-- The directory of the partition where it is at another location than the hive
layout gives it: the `custom_directories`. -/
def customDirectory : Option Text :=
  let (relativePath, writable) := relativePartitionPath location planned.partition.location
  if planned.isCanonical hive casts table location columns byPosition ||
      planned.mismatch table byPosition ≠ none || !writable || relativePath = [] then none
  else some relativePath

/-- What rows of a partition whose columns differ are refused with. -/
def mismatchError (index : Nat) : Exception :=
  let tableColumn := table.columns.getD index {}
  let partitionColumn := (planned.partition.findPartitionColumn table.columns index byPosition).getD {}
  .invalidInput ("Writing to Hive table '" ++ table.schemaName ++ "." ++ table.name ++ "' failed: partition [" ++
    join planned.partition.values ", " ++ "] declares column '" ++ partitionColumn.name ++ "' as '" ++
    partitionColumn.type ++ "', but the table declares column '" ++ tableColumn.name ++ "' as '" ++
    tableColumn.type ++ "'. The table schema changed after the partition was created, and inserting into a " ++
    "partition whose column types differ from the table's is not supported: the new files would not match the " ++
    "types the partition declares. Make the partition declare the table's columns first, e.g. by dropping it " ++
    "with glue_drop_partition and adding it again with glue_add_partition, which keeps its files")

/-- The path or error of the rows of a partition that is not canonical. -/
def path : Except Exception Text :=
  let (relativePath, writable) := relativePartitionPath location planned.partition.location
  match planned.mismatch table byPosition with
  | some index => .error (planned.mismatchError table byPosition index)
  | none =>
      if !writable then .error (.invalidInput
        ("INSERT into Hive table '" ++ table.schemaName ++ "." ++ table.name ++ "' is not supported: partition [" ++
          join planned.partition.values ", " ++ "] is registered at '" ++ planned.partition.location ++
          "', whose path has an empty or '.' segment, and DuckDB can not write to it"))
      -- the copy rejects a partition path that is not below its target
      else if relativePath = [] then .ok planned.partition.location
      else .ok relativePath

end PlannedPartition

namespace GlueHiveInsert

section CreatePartitionPath

variable {Value : Type} (hive : HivePartitioning) (casts : KeyCasts Value) (table : GlueTableInfo)
  (location : Text) (columns : List PartitionColumn)

/-- The rows whose own directory is the location of another partition. -/
def customCheck (directory : Text) (values : List Text) : PathCheck Value where
  applies row := hivePath hive casts columns row = directory
  path := .error (.invalidInput
    ("INSERT into Hive table '" ++ table.schemaName ++ "." ++ table.name ++ "' is not supported: rows would be " ++
      "written to '" ++ directory ++ "', the location of partition [" ++ join values ", " ++
      "], and read back as that partition"))

/-- The path over the existing partitions, each cast. -/
def partitionPath (byPosition : Bool) (planned : List (PlannedPartition Value)) : PartitionPath Value :=
  let custom := planned.filterMap fun partition =>
    (partition.customDirectory hive casts table location columns byPosition).map (·, partition.partition.values)
  { checks := nullValueChecks casts table columns ++
      (planned.filter fun partition => !partition.isCanonical hive casts table location columns byPosition).map
        (fun partition => ⟨partition.matchesRow casts, partition.path table location byPosition⟩) ++
      custom.map fun (directory, values) => customCheck hive casts table columns directory values
    hivePath := hivePath hive casts columns
    plannedLocations := planned.map fun partition => (partition.partition.values, partition.partition.location)
    partitionDirectories := custom.map fun (directory, values) => (location ++ ['/'] ++ directory, values) }

/-- `CreatePartitionPath`; a table the statement creates has no partitions. -/
def createPartitionPath (existing : Option (List GluePartitionInfo)) : Except Exception (PartitionPath Value) :=
  match existing with
  | none => .ok (partitionPath hive casts table location columns false [])
  | some partitions => do
      let byPosition := (← table.getFileFormat) = .csv
      let planned ← partitions.mapM (plannedPartition casts table columns)
      return partitionPath hive casts table location columns byPosition planned

/-- The first check that applies to the row decides, otherwise its hive directory. -/
def evaluate (path : PartitionPath Value) (row : List (Option Value)) :
    Except Exception Text :=
  match path.checks.find? (·.applies row) with
  | some check => check.path
  | none => .ok (path.hivePath row)

/-- The file of a row: `isRelative` is what the copy asks of a partition path. -/
def writtenFile (isRelative : Text → Bool) (path : PartitionPath Value) (row : List (Option Value))
    (fileName : Text) : Except Exception Text := do
  let directory ← evaluate path row
  if isRelative directory then return location ++ ['/'] ++ directory ++ ['/'] ++ fileName
  else throw (.invalidInput ("PARTITION_PATH must be relative to the COPY target, but got \"" ++ directory ++ "\""))

end CreatePartitionPath

section Finalize

variable (hive : HivePartitioning) (table : GlueTableInfo)

/-- `file.substr(0, file.find_last_of('/'))` -/
def directoryOf (file : Text) : Text :=
  if '/' ∈ file then ((file.reverse.dropWhile (· ≠ '/')).drop 1).reverse else file

/-- The value a directory of the hive layout has for a key. -/
def componentValue (file key component : Text) : Except Exception Text :=
  if '=' ∈ component ∧ ciEquals (hive.unescape (component.takeWhile (· ≠ '='))) key then
    .ok (hive.unescape ((component.dropWhile (· ≠ '=')).drop 1))
  else .error (.internal ("Written file '" ++ file ++ "' has no value for partition key '" ++ key ++ "'"))

/-- The partition of a written file: of the existing partition its directory is, or
of the values its last directories name. -/
def registration (partitionDirectories : List (Text × List Text)) (file : Text) :
    Except Exception GluePartitionInput :=
  let directory := directoryOf file
  match partitionDirectories.lookup directory with
  | some values => .ok { values, location := directory }
  | none =>
      let components := split directory '/'
      let keys := table.partitionKeys.map (·.name)
      if components.length < keys.length then
        .error (.internal ("Written file '" ++ file ++ "' has no directory for each partition key"))
      else do
        let values ← (keys.zip (components.drop (components.length - keys.length))).mapM fun (key, component) =>
          componentValue hive file key component
        return { values, location := directory }

/-- `partitions`: one registration for each directory. -/
def registrations (partitionDirectories : List (Text × List Text)) :
    List Text → List GluePartitionInput → Except Exception (List GluePartitionInput)
  | [], found => .ok found
  | file :: files, found =>
      if found.any fun partition => partition.location = directoryOf file then
        registrations partitionDirectories files found
      else do
        let partition ← registration hive table partitionDirectories file
        registrations partitionDirectories files (found ++ [partition])

/-- A partition as Glue keeps it: the table's descriptor at the partition's location. -/
def created (partition : GluePartitionInput) : GluePartitionInfo where
  values := partition.values
  location := partition.location
  inputFormat := table.inputFormat
  serdeLibrary := table.serdeLibrary
  serdeParameters := table.serdeParameters
  partitionColumns := table.columns

/-- `BatchCreatePartitions` while no other client writes: the partitions registered
after it, and the ones that existed already. -/
def batchCreatePartitions : List GluePartitionInput → List GluePartitionInfo →
    List GluePartitionInfo × List GluePartitionInput
  | [], registered => (registered, [])
  | partition :: partitions, registered =>
      if registered.any fun existing => existing.values = partition.values then
        let (registered, alreadyExisting) := batchCreatePartitions partitions registered
        (registered, partition :: alreadyExisting)
      else batchCreatePartitions partitions (registered ++ [created table partition])

/-- The comparison of `CheckExistingPartitionLocations`. -/
def checkLocation (partition : GluePartitionInput) (registered : Text) : Except Exception Unit :=
  if comparableLocation registered ≠ comparableLocation partition.location then
    .error (.io ("rows of partition [" ++ join partition.values ", " ++ "] were written to '" ++ partition.location ++
      "', but the partition is registered at '" ++ registered ++ "'"))
  else .ok ()

/-- A partition the plan saw is compared with the location it had then. -/
def checkPlanned (plannedLocations : List (List Text × Text)) (partition : GluePartitionInput) : Except Exception Unit :=
  match plannedLocations.lookup partition.values with
  | some planned => checkLocation partition planned
  | none => .ok ()

/-- One it did not see is compared with what is looked up. -/
def checkUnplanned (lookup : List Text → Option Text) (partition : GluePartitionInput) : Except Exception Unit :=
  match lookup partition.values with
  | some registered => checkLocation partition registered
  | none => .error (.io ("partition [" ++ join partition.values ", " ++
      "] existed when its files were registered, but no longer does"))

/-- The partitions the plan did not see. -/
def unplanned (plannedLocations : List (List Text × Text)) (alreadyExisting : List GluePartitionInput) :
    List GluePartitionInput :=
  alreadyExisting.filter fun partition => (plannedLocations.lookup partition.values).isNone

/-- `CheckExistingPartitionLocations`: `lookup` is what Glue has registered then. -/
def checkExistingPartitionLocations (plannedLocations : List (List Text × Text)) (lookup : List Text → Option Text)
    (alreadyExisting : List GluePartitionInput) : Except Exception Unit := do
  alreadyExisting.forM (checkPlanned plannedLocations)
  (unplanned plannedLocations alreadyExisting).forM (checkUnplanned lookup)

/-- What a failed INSERT is reported with, its files deleted. -/
def rolledBack (error : Exception) : Exception :=
  .io ("INSERT into Hive table '" ++ table.schemaName ++ "." ++ table.name ++ "' was rolled back: " ++ error.message ++
    ". The files it wrote were deleted, so it can be run again")

/-- `Finalize` while no other client writes: the partitions registered after it.
`iterate` is the order in which the map of the directories is gone through. -/
def finalize {Value : Type} (path : PartitionPath Value) (iterate : List GluePartitionInput → List GluePartitionInput)
    (existing : List GluePartitionInfo) (writtenFiles : List Text) : Except Exception (List GluePartitionInfo) :=
  if table.partitionKeys = [] ∨ writtenFiles = [] then .ok existing
  else do
    let toRegister ← registrations hive table path.partitionDirectories writtenFiles []
    let (registered, alreadyExisting) := batchCreatePartitions table (iterate toRegister) existing
    let lookup (values : List Text) :=
      (registered.find? fun partition => partition.values = values).map (·.location)
    match checkExistingPartitionLocations path.plannedLocations lookup alreadyExisting with
    | .ok () => return registered
    | .error error => throw (rolledBack table error)

end Finalize

/-- Of partitions with different values, the ones Glue knew are there and the others new. -/
theorem batchCreatePartitions_eq {table : GlueTableInfo} {partitions : List GluePartitionInput}
    {registered : List GluePartitionInfo} (distinct : (partitions.map (·.values)).Nodup) :
    batchCreatePartitions table partitions registered =
      (registered ++ (partitions.filter fun partition => !registered.any fun existing =>
          existing.values = partition.values).map (created table),
        partitions.filter fun partition => registered.any fun existing => existing.values = partition.values) := by
  induction partitions generalizing registered with
  | nil => simp [batchCreatePartitions]
  | cons partition partitions ih =>
      rw [List.map_cons, List.nodup_cons] at distinct
      obtain ⟨fresh, distinct⟩ := distinct
      cases known : registered.any fun existing => decide (existing.values = partition.values) with
      | true => simp only [batchCreatePartitions, known, if_true, ih distinct, List.filter_cons, Bool.not_true,
          Bool.false_eq_true, if_false]
      | false =>
          -- what is registered now does not tell for the partitions left
          have later : ∀ other ∈ partitions,
              ((registered ++ [created table partition]).any fun existing => decide (existing.values = other.values)) =
                registered.any fun existing => decide (existing.values = other.values) := by
            intro other member
            have differs : (created table partition).values ≠ other.values := by
              intro same
              exact fresh (List.mem_map.mpr ⟨other, member, same.symm⟩)
            simp [List.any_append, differs]
          have news : (partitions.filter fun other => !(registered ++ [created table partition]).any fun existing =>
              decide (existing.values = other.values)) =
                partitions.filter fun other => !registered.any fun existing => decide (existing.values = other.values) :=
            List.filter_congr fun other member => congrArg _ (later other member)
          rw [batchCreatePartitions, known, if_neg Bool.false_ne_true, ih distinct, news, List.filter_congr later]
          simp only [List.filter_cons, known, Bool.not_false, if_true, Bool.false_eq_true, if_false, List.map_cons,
            List.append_assoc, List.singleton_append]

end GlueHiveInsert

end DuckGlue
