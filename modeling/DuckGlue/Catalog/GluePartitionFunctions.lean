import DuckGlue.Catalog.AlterTable
import DuckGlue.Planning.GlueHiveInsert

/-! # Table functions that change a table

glue_replace_columns, glue_set_table_location and glue_alter_table fetch the definition
when they are bound, check it there, and change it when they are executed.
-/

namespace DuckGlue

open StringUtil Fallible

/-- A STRUCT of strings: DuckDB refuses two fields of a name. -/
structure StringStruct where
  fields : List (Text × Option Text)
  distinct : fields.Pairwise fun a b => ciEquals a.1 b.1 = false

/-- An action of glue_alter_table, as its STRUCT gives it; a missing value is NULL. -/
structure GlueAlterAction where
  action : Text
  ifNotExists : Bool := false
  ifExists : Bool := false
  partition : Option (List (Option Text × Option Text)) := none
  newPartition : Option (List (Option Text × Option Text)) := none
  location : Option Text := none

inductive GlueAlterStep where
  | add (values : List Text) (location : Text) (ifNotExists : Bool)
  | drop (values : List Text) (ifExists : Bool)
  | rename (values newValues : List Text)
  | setPartitionLocation (values : List Text) (location : Text) (ifExists : Bool)
  | setTableLocation (location : Text)
  deriving Repr, DecidableEq

namespace GluePartitionFunctions

/-- `GluePartitionTarget::TableName` -/
def targetName (table : GlueTableInfo) : Text := table.schemaName ++ "." ++ table.name

/-- `ResolveGlueTable` of the definition Glue gives. -/
def resolveGlueTable (functionName : Text) (requirePartitions : Bool) (table : GlueTableInfo) :
    Except Exception Unit := do
  if table.isView then
    if requirePartitions then
      throw (.binder (functionName ++ ": Glue view '" ++ targetName table ++ "' has no partitions"))
    throw (.binder (functionName ++ ": '" ++ targetName table ++ "' is a Glue view, not a table"))
  if !table.getFormat.isHive then
    throw (.notImplemented (functionName ++ " only works on Hive tables, '" ++ targetName table ++ "' is a " ++
      table.getFormat.describe table ++ " table"))
  if requirePartitions && table.partitionKeys = [] then
    throw (.invalidInput ("Table '" ++ targetName table ++ "' is not partitioned"))

theorem resolveGlueTable_ok {functionName : Text} {requirePartitions : Bool} {table : GlueTableInfo} :
    resolveGlueTable functionName requirePartitions table = .ok () ↔ table.isView = false ∧
      table.getFormat.isHive = true ∧ (requirePartitions = true → table.partitionKeys ≠ []) := by
  unfold resolveGlueTable
  cases view : table.isView with
  | true => cases requirePartitions <;> simp only [if_true, Bool.false_eq_true, if_false, bind_eq_ok, throw_ne_ok,
      reduceCtorEq, false_and, exists_false]
  | false =>
      simp only [Bool.false_eq_true, if_false, guard_throw_eq_ok, stop_throw_eq_ok, pure_eq_ok, and_true, true_and]
      cases requirePartitions <;> simp

/-- `ParseLocation`; no location is NULL. -/
def parseLocation (functionName : Text) (location : Option Text) : Except Exception Text := do
  let some location := location
    | throw (.binder (functionName ++ ": the location must not be NULL"))
  let result := rtrim location '/'
  if result = [] then
    throw (.binder (functionName ++ ": the location must not be empty"))
  if !startsWith (lower result) "s3://" && !startsWith (lower result) "s3a://" then
    throw (.binder (functionName ++ ": the location must be an S3 location (s3://...), got '" ++ result ++ "'"))
  return result

/-- glue_set_table_location -/
def setTableLocation (table : GlueTableInfo) (location : Option Text) : Except Exception TableUpdate := do
  resolveGlueTable "glue_set_table_location" false table
  let location ← parseLocation "glue_set_table_location" location
  return .location location

/-- The position of the last of the names in a `case_insensitive_map_t` filled in order. -/
def lastIndex (names : List Text) (name : Text) : Option Nat :=
  ((names.zipIdx.filter fun entry => ciEquals entry.1 name).getLast?).map (·.2)

variable (typeName : LogicalType → Text) (parseType : Text → Except Exception LogicalType)

/-- The column glue_replace_columns matches the one at the position with: by position in a
csv table, by name in others. -/
def previousColumn (table : GlueTableInfo) (byPosition : Bool) (index : Nat) (name : Text) : Option GlueColumn :=
  if byPosition then table.columns[index]?
  else do
    let index ← lastIndex (table.columns.map (·.name)) name
    table.columns[index]?

/-- One column of glue_replace_columns. -/
def replaceColumn (table : GlueTableInfo) (byPosition keepComments : Bool) (index : Nat)
    (field : Text × Option Text) : Except Exception GlueColumn := do
  let some given := field.2
    | throw (.binder ("glue_replace_columns: no type given for column '" ++ field.1 ++ "'"))
  let parsed ← parseType given
  let stored ← GlueTypes.fromLogicalType typeName parsed
  let type ← GlueTypes.toLogicalType stored
  let column ←
    match previousColumn table byPosition index field.1 with
    | some previous => do
        let source ← GlueTypes.toLogicalType previous.type
        if !GlueTypes.isAllowedHiveTypeChange source type then
          throw (.binder ("glue_replace_columns: can not change column '" ++ previous.name ++ "' of table '" ++
            targetName table ++ "' from " ++ typeName source ++ " to " ++ typeName type ++
            ": existing files keep their types, only widening changes are supported"))
        -- the json reader matches field names case-sensitively
        pure { name := if byPosition then field.1 else previous.name, type := stored,
               comment := if keepComments then previous.comment else [] : GlueColumn }
    | none => pure { name := field.1, type := stored }
  if table.partitionKeys.any (ciEquals ·.name column.name) then
    throw (.binder ("glue_replace_columns: '" ++ column.name ++ "' is a partition key of table '" ++
      targetName table ++ "', the columns are the data columns only"))
  return column

/-- The columns with the comments of the `comments` option, where NULL removes one. -/
def applyComments : List GlueColumn → List (Text × Option Text) → Except Exception (List GlueColumn)
  | columns, [] => .ok columns
  | columns, (name, comment) :: comments =>
      match lastIndex (columns.map (·.name)) name with
      | some index => applyComments (columns.modify index fun column => { column with comment := comment.getD [] }) comments
      | none => .error (.binder ("glue_replace_columns: 'comments' names '" ++ name ++ "', which is not one of the columns"))

/-- `require_kept` -/
def requireKept (table : GlueTableInfo) (columns : List GlueColumn) (column : Text) : Except Exception Unit :=
  if columns.any (ciEquals ·.name column) then .ok ()
  else .error (.binder ("glue_replace_columns: table '" ++ targetName table ++ "' is " ++ table.describeBucketing ++
    ", the columns must keep '" ++ column ++ "'"))

/-- glue_replace_columns; a value that is no STRUCT of strings is missing, and the outer
`comments` is the option. -/
def replaceColumns (table : GlueTableInfo) (columns : Option StringStruct) (comments : Option (Option StringStruct))
    (keepComments : Bool) : Except Exception TableUpdate := do
  resolveGlueTable "glue_replace_columns" false table
  let some columns := columns.filter (·.fields ≠ [])
    | throw (.binder ("glue_replace_columns: the columns must be a struct of column name to type, e.g. " ++
        "\x7bid: 'BIGINT', name: 'VARCHAR'\x7d"))
  if comments.any Option.isNone then
    throw (.binder "glue_replace_columns: 'comments' must be a struct of column name to comment")
  let fileFormat ← table.getFileFormat
  let byPosition := fileFormat = .csv
  if byPosition && columns.fields.length ≠ table.columns.length then
    throw (.binder ("glue_replace_columns: table '" ++ targetName table ++ "' is stored as csv, which is read by " ++
      "position, so it must keep its " ++ (toString table.columns.length).toList ++ " columns"))
  let replaced ← columns.fields.zipIdx.mapM fun entry =>
    replaceColumn typeName parseType table byPosition keepComments entry.2 entry.1
  let commented ← applyComments replaced ((comments.bind id).elim [] (·.fields))
  table.bucketColumns.forM (requireKept table commented)
  table.sortColumns.forM fun column => requireKept table commented column.name
  return .columns commented

/-- What glue_replace_columns has passed. -/
structure ReplacePassed (table : GlueTableInfo) (given : Option StringStruct) (comments : List (Text × Option Text))
    (keepComments : Bool) (fields : StringStruct) (fileFormat : HiveFileFormat) (replaced commented : List GlueColumn) :
    Prop where
  isGiven : given = some fields
  someField : fields.fields ≠ []
  format : table.getFileFormat = .ok fileFormat
  counted : fileFormat = .csv → fields.fields.length = table.columns.length
  mapped : fields.fields.zipIdx.mapM (fun entry =>
    replaceColumn typeName parseType table (fileFormat = .csv) keepComments entry.2 entry.1) = .ok replaced
  applied : applyComments replaced comments = .ok commented
  buckets : ∀ name ∈ table.bucketColumns, requireKept table commented name = .ok ()
  sorts : ∀ column ∈ table.sortColumns, requireKept table commented column.name = .ok ()

theorem replaceColumns_passed {table : GlueTableInfo} {given : Option StringStruct}
    {comments : Option (Option StringStruct)} {keepComments : Bool} {update : TableUpdate}
    (done : replaceColumns typeName parseType table given comments keepComments = .ok update) :
    ∃ fields fileFormat replaced commented, update = .columns commented ∧ ReplacePassed typeName parseType table given
      ((comments.bind id).elim [] (·.fields)) keepComments fields fileFormat replaced commented := by
  unfold replaceColumns at done
  cases filtered : given.filter (·.fields ≠ []) with
  | none => simp only [filtered, bind_eq_ok, throw_ne_ok, and_false, exists_false] at done
  | some fields =>
      simp only [filtered, bind_eq_ok, guard_throw_eq_ok, pure_eq_ok, exists_unit_ok] at done
      obtain ⟨_, _, fileFormat, format, counted, replaced, mapped, commented, applied, buckets, sorts, rfl⟩ := done
      obtain ⟨isGiven, someField⟩ := Option.filter_eq_some_iff.mp filtered
      refine ⟨fields, fileFormat, replaced, commented, rfl, isGiven, by simpa using someField, format, ?_, mapped, applied,
        forM_eq_ok.mp buckets, forM_eq_ok.mp sorts⟩
      intro csv
      simpa [csv] using counted

section AlterTable

variable (hive : HivePartitioning) (castKey : LogicalType → Text → Except Exception Text)

/-- The names and types of the partition keys. -/
def keyTypes (table : GlueTableInfo) : List (Text × Text) := table.partitionKeys.map fun key => (key.name, key.type)

def describeKeys (table : GlueTableInfo) : Text := join ((keyTypes table).map (·.1)) ", "

/-- The values of `ParsePartitionPairs` so far, by key: one (key, value) pair after another. -/
def fillPartition (table : GlueTableInfo) : List (Option Text) → List (Text × Option Text) →
    Except Exception (List (Option Text))
  | result, [] => .ok result
  | result, (key, value) :: pairs =>
      match (keyTypes table).findIdx? fun column => ciEquals column.1 key with
      | none => .error (.binder ("'" ++ key ++ "' is not a partition key of table '" ++ targetName table ++
          "', the partition keys are: " ++ describeKeys table))
      | some index => do
          let (name, type) := (keyTypes table).getD index ([], [])
          if ((result[index]?).bind id).isSome then
            throw (.binder ("Partition key '" ++ name ++ "' is given twice"))
          let text ←
            match value with
            | none => pure defaultPartitionName
            | some value => do
                let type ← GlueTypes.toLogicalType type
                castKey type value
          fillPartition table (result.set index (some text)) pairs

/-- `ParsePartitionPairs` -/
def parsePartitionPairs (functionName : Text) (table : GlueTableInfo) (pairs : List (Text × Option Text)) :
    Except Exception (List Text) := do
  let result ← fillPartition castKey table ((keyTypes table).map fun _ => none) pairs
  (List.zip (keyTypes table) result).mapM fun entry =>
    match entry.2 with
    | some value => .ok value
    | none => .error (.binder (functionName ++ ": the partition must name every partition key of table '" ++
        targetName table ++ "' (" ++ describeKeys table ++ "), '" ++ entry.1.1 ++ "' is missing"))

/-- `ParsePartitionPairsValue` -/
def parsePartitionPairsValue (functionName : Text) (table : GlueTableInfo)
    (pairs : Option (List (Option Text × Option Text))) : Except Exception (List Text) := do
  let some pairs := pairs
    | throw (.binder (functionName ++ ": a partition must be given as a list of {key, value} structs"))
  let pairs ← pairs.mapM fun entry =>
    match entry.1 with
    | some key => .ok (key, entry.2)
    | none => .error (.binder (functionName ++ ": a partition entry needs a key"))
  parsePartitionPairs castKey functionName table pairs

/-- `DefaultPartitionLocation` -/
def defaultPartitionLocation (table : GlueTableInfo) (values : List Text) : Except Exception Text :=
  if rtrim table.location '/' = [] then
    .error (.invalidInput ("Table '" ++ targetName table ++
      "' has no location in Glue, provide the partition location explicitly"))
  else .ok (hive.joinPath (rtrim table.location '/')
    (GlueHiveInsert.hivePartitionDirectory hive ((keyTypes table).map (·.1)) values))

/-- A step of `GlueAlterTableBind`. -/
def parseAction (table : GlueTableInfo) (action : GlueAlterAction) : Except Exception GlueAlterStep := do
  let name := lower action.action
  if name = "add".toList then
    let values ← parsePartitionPairsValue castKey "ALTER TABLE ADD PARTITION" table action.partition
    let location ←
      if action.location.isNone then defaultPartitionLocation hive table values
      else parseLocation "ALTER TABLE ADD PARTITION" action.location
    return .add values location action.ifNotExists
  else if name = "drop".toList then
    let values ← parsePartitionPairsValue castKey "ALTER TABLE DROP PARTITION" table action.partition
    return .drop values action.ifExists
  else if name = "rename".toList then
    let values ← parsePartitionPairsValue castKey "ALTER TABLE RENAME PARTITION" table action.partition
    let newValues ← parsePartitionPairsValue castKey "ALTER TABLE RENAME PARTITION" table action.newPartition
    return .rename values newValues
  else if name = "set_partition_location".toList then
    let values ← parsePartitionPairsValue castKey "ALTER TABLE PARTITION SET LOCATION" table action.partition
    let location ← parseLocation "ALTER TABLE PARTITION SET LOCATION" action.location
    return .setPartitionLocation values location action.ifExists
  else if name = "set_table_location".toList then
    let location ← parseLocation "ALTER TABLE SET LOCATION" action.location
    return .setTableLocation location
  else throw (.binder ("glue_alter_table: unknown action '" ++ name ++ "'"))

/-- `GlueAlterTableBind`: only table actions do without a partitioned table. -/
def alterTableBind (table : GlueTableInfo) (actions : List GlueAlterAction) : Except Exception (List GlueAlterStep) := do
  resolveGlueTable "glue_alter_table" (actions.any fun action => lower action.action ≠ "set_table_location".toList) table
  actions.mapM (parseAction hive castKey table)

end AlterTable

end GluePartitionFunctions

end DuckGlue
