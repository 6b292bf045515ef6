import DuckGlue.Catalog.CreateTable

/-! # ALTER TABLE

What the statements that change a Hive table check of its definition, and what their
UpdateTable request changes of it. The request sends the whole definition back as it
was fetched, with that change.
-/

namespace DuckGlue

open StringUtil Fallible

/-- What a request changes: the `modify` of `UpdateGlueTable`. -/
inductive TableUpdate where
  | columns (columns : List GlueColumn)
  | partitionKeys (partitionKeys : List GlueColumn)
  | description (description : Text)
  | location (location : Text)
  | parameters (set : List (Text × Text)) (unset : List Text)
  deriving Repr, DecidableEq

namespace TableUpdate

/-- The definition a request sends, from the one it was built from. -/
def apply (table : GlueTableInfo) : TableUpdate → GlueTableInfo
  | .columns given => { table with columns := given }
  | .partitionKeys given => { table with partitionKeys := given }
  | .description given =>
      -- the comment lives in both locations
      { table with
        description := given
        parameters :=
          if given = [] then table.parameters.erase "comment".toList
          else table.parameters.insert "comment".toList given }
  | .location given => { table with location := given }
  | .parameters set unset =>
      { table with
        parameters := set.foldl (fun parameters entry => parameters.insert entry.1 entry.2)
          (unset.foldl (fun parameters key => parameters.erase key) table.parameters) }

end TableUpdate

/-- An ALTER or COMMENT statement on an entry. -/
inductive AlterInfo where
  | alterView
  /-- No comment is NULL. -/
  | setColumnComment (columnName : Text) (comment : Option Text)
  | setComment (comment : Option Text)
  | setTableOptions (tableOptions : List (Text × Option OptionValue))
  | resetTableOptions (tableOptions : List Text)
  | addColumn (newColumn : ColumnDefinition) (ifColumnNotExists : Bool)
  | removeColumn (removedColumn : Text) (ifColumnExists : Bool)
  | renameColumn (oldName newName : Text)
  /-- A column or a field in it; without USING the expression is a plain cast. -/
  | alterColumnType (column : Text) (path : List Text) (targetType : LogicalType) (collation : Text) (plainCast : Bool)
  | otherAlterTable (type : Text)
  | other

namespace GlueTableFormat

/-- `IsParameter` -/
def isParameter (key : Text) : Bool :=
  ciEquals key "table_type" || ciEquals key "spark.sql.sources.provider" || ciEquals key "metadata_location"

end GlueTableFormat

namespace GlueSchemaEntry

/-- `CheckTablePropertyChangeable` -/
def checkTablePropertyChangeable (key : Text) : Except Exception Unit := do
  if key = [] then
    throw (.invalidInput "A table property needs a name")
  if GlueTableFormat.isParameter key then
    throw (.invalidInput ("Table property '" ++ key ++ "' decides how the table is read and can not be changed " ++
      "with ALTER TABLE"))

/-- The properties of ALTER TABLE ... SET, as text. -/
def setTableProperties (tableOptions : List (Text × Option OptionValue)) : Except Exception TableUpdate := do
  let options ← evaluateOptions tableOptions "ALTER TABLE SET"
  let set ← options.mapM fun option => do
    checkTablePropertyChangeable option.1
    return (option.1, option.2.scalar.text)
  return .parameters set []

/-- The properties of ALTER TABLE ... RESET. -/
def resetTableProperties (tableOptions : List Text) : Except Exception TableUpdate := do
  tableOptions.forM checkTablePropertyChangeable
  return .parameters [] tableOptions

/-- `CheckNotClustering` -/
def checkNotClustering (table : GlueTableInfo) (tableName name action : Text) : Except Exception Unit := do
  if table.bucketColumns.any (ciEquals · name) then
    throw (.catalog ("Column \"" ++ name ++ "\" is a bucket column of table \"" ++ tableName ++
      "\" and can not be " ++ action))
  if table.sortColumns.any (ciEquals ·.name name) then
    throw (.catalog ("Column \"" ++ name ++ "\" is a sort column of table \"" ++ tableName ++
      "\" and can not be " ++ action))

/-- The first column of a name changed. -/
def modifyFirst (name : Text) (change : GlueColumn → GlueColumn) : List GlueColumn → List GlueColumn
  | [] => []
  | column :: columns =>
      if ciEquals column.name name then change column :: columns else column :: modifyFirst name change columns

def findColumn (columns : List GlueColumn) (name : Text) : Option GlueColumn :=
  columns.find? fun column => ciEquals column.name name

def noColumn (tableName name : Text) : Exception :=
  .catalog ("Table \"" ++ tableName ++ "\" does not have a column with name \"" ++ name ++ "\"")

variable (typeName : LogicalType → Text)

/-- `SetColumnComment` -/
def setColumnComment (table : GlueTableInfo) (name : Text) (comment : Option Text) : Except Exception TableUpdate :=
  let change := fun column : GlueColumn => { column with comment := comment.getD [] }
  if (findColumn table.partitionKeys name).isSome then .ok (.partitionKeys (modifyFirst name change table.partitionKeys))
  else if (findColumn table.columns name).isSome then .ok (.columns (modifyFirst name change table.columns))
  else .error (noColumn table.name name)

/-- ADD COLUMN; nothing is to be done where IF NOT EXISTS finds the column. -/
def addColumn (table : GlueTableInfo) (tableName : Text) (newColumn : ColumnDefinition) (ifColumnNotExists : Bool) :
    Except Exception (Option TableUpdate) := do
  let name := newColumn.name
  if (findColumn table.columns name).isSome || (findColumn table.partitionKeys name).isSome then
    if ifColumnNotExists then return none
    throw (.catalog ("Column with name \"" ++ name ++ "\" already exists in table \"" ++ tableName ++ "\""))
  throwIfUnsupportedColumn newColumn
  let type ← GlueTypes.fromLogicalType typeName newColumn.type
  return some (.columns (table.columns ++ [{ name := name, type := type : GlueColumn }]))

/-- DROP COLUMN -/
def removeColumn (table : GlueTableInfo) (tableName name : Text) (ifColumnExists : Bool) :
    Except Exception (Option TableUpdate) := do
  if (findColumn table.partitionKeys name).isSome then
    throw (.catalog ("Column \"" ++ name ++ "\" is a partition key of table \"" ++ tableName ++
      "\" and can not be dropped"))
  if (findColumn table.columns name).isNone then
    if ifColumnExists then return none
    throw (noColumn tableName name)
  checkNotClustering table tableName name "dropped"
  let fileFormat ← table.getFileFormat
  if fileFormat = .csv then
    throw (.catalog ("Can not drop column \"" ++ name ++ "\" from table \"" ++ tableName ++
      "\": DROP COLUMN is not supported for csv (text) tables"))
  if table.columns.length = 1 then
    throw (.catalog ("Can not drop column \"" ++ name ++ "\": table \"" ++ tableName ++ "\" needs at least one column"))
  return some (.columns (table.columns.filter fun column => !ciEquals column.name name))

/-- RENAME COLUMN -/
def renameColumn (table : GlueTableInfo) (tableName name newName : Text) : Except Exception TableUpdate := do
  let some column := findColumn table.columns name
    | if (findColumn table.partitionKeys name).isSome then
        throw (.catalog ("Column \"" ++ name ++ "\" is a partition key of table \"" ++ tableName ++
          "\" and can not be renamed: the existing partition directories are named after it (" ++ name ++ "=...)"))
      throw (noColumn tableName name)
  -- the first column of the new name may be the renamed one itself
  let existing := table.columns.findIdx? fun column => ciEquals column.name newName
  if (existing.isSome && existing ≠ table.columns.findIdx? fun column => ciEquals column.name name) ||
      (findColumn table.partitionKeys newName).isSome then
    throw (.catalog ("Column with name \"" ++ newName ++ "\" already exists in table \"" ++ tableName ++ "\""))
  let fileFormat ← table.getFileFormat
  if fileFormat ≠ .csv then
    throw (.notImplemented ("Can not rename column \"" ++ name ++ "\" of table \"" ++ tableName ++
      "\": its data files are matched to the columns by name, so the existing data would read as NULL; use " ++
      "glue_replace_columns to replace the column deliberately"))
  checkNotClustering table tableName column.name "renamed"
  return .columns (modifyFirst name (fun column => { column with name := newName }) table.columns)

/-- ALTER COLUMN TYPE -/
def alterColumnType (table : GlueTableInfo) (tableName name : Text) (path : List Text) (targetType : LogicalType)
    (collation : Text) (plainCast : Bool) : Except Exception TableUpdate := do
  if path ≠ [] then
    throw (.notImplemented "Changing the type of a nested field is not yet supported")
  if (findColumn table.partitionKeys name).isSome then
    throw (.catalog ("Column \"" ++ name ++ "\" is a partition key of table \"" ++ tableName ++
      "\" and its type can not be changed"))
  let some column := findColumn table.columns name
    | throw (noColumn tableName name)
  throwIfCollated collation name
  if !plainCast then
    throw (.notImplemented ("ALTER COLUMN ... TYPE ... USING is not supported for Hive tables in a Glue catalog: " ++
      "existing data files can not be rewritten"))
  let source ← GlueTypes.toLogicalType column.type
  if !GlueTypes.isAllowedHiveTypeChange source targetType then
    throw (.catalog ("Can not change column \"" ++ name ++ "\" of table \"" ++ tableName ++ "\" from " ++
      typeName source ++ " to " ++ typeName targetType ++ ": existing parquet files keep their types, only widening " ++
      "changes (e.g. INTEGER to BIGINT, FLOAT to DOUBLE, anything to VARCHAR) are supported for Hive tables"))
  let type ← GlueTypes.fromLogicalType typeName targetType
  return .columns (modifyFirst name (fun column => { column with type }) table.columns)

/-- `Alter` of the entry that is bound, by the definition to write: the change it sends to
Glue, or nothing where an IF EXISTS has nothing to do. -/
def alter (tableName : Text) (bound current : GlueTableInfo) (info : AlterInfo) :
    Except Exception (Option TableUpdate) := do
  if bound.isView then
    match info with
    | .alterView => throw (.notImplemented ("Glue cannot rename a view; use CREATE OR REPLACE VIEW under the new name " ++
        "and DROP VIEW the old one"))
    | .setComment _ | .setColumnComment _ _ => throw (.notImplemented "Comments on Glue views are not supported yet")
    | _ => throw (.binder ("\"" ++ tableName ++ "\" is a view"))
  if !current.getFormat.isHive then
    throw (.notImplemented ("ALTER TABLE is only supported for Hive tables in a Glue catalog, '" ++ tableName ++
      "' is a " ++ current.getFormat.describe current ++ " table"))
  match info with
  | .setColumnComment name comment => return some (← setColumnComment current name comment)
  | .setComment comment => return some (.description (comment.getD []))
  | .alterView | .other => throw (.notImplemented "Only ALTER TABLE is supported for Glue tables")
  | .setTableOptions tableOptions => return some (← setTableProperties tableOptions)
  | .resetTableOptions tableOptions => return some (← resetTableProperties tableOptions)
  | .addColumn newColumn ifColumnNotExists => addColumn typeName current tableName newColumn ifColumnNotExists
  | .removeColumn name ifColumnExists => removeColumn current tableName name ifColumnExists
  | .renameColumn name newName => return some (← renameColumn current tableName name newName)
  | .alterColumnType name path targetType collation plainCast =>
      return some (← alterColumnType typeName current tableName name path targetType collation plainCast)
  | .otherAlterTable type => throw (.notImplemented ("ALTER TABLE " ++ type ++ " is not supported for Glue tables"))

section Passed

variable {typeName} {table : GlueTableInfo} {tableName name : Text} {update : TableUpdate}

/-- What ADD COLUMN has passed. -/
theorem addColumn_passed {newColumn : ColumnDefinition} {ifNotExists : Bool}
    (added : addColumn typeName table tableName newColumn ifNotExists = .ok (some update)) :
    ¬ ((findColumn table.columns newColumn.name).isSome || (findColumn table.partitionKeys newColumn.name).isSome) = true ∧
      ∃ type, update = .columns (table.columns ++ [{ name := newColumn.name, type := type : GlueColumn }]) := by
  unfold addColumn at added
  dsimp only at added
  split_ifs at added with found
  · cases added
  · simp only [bind_eq_ok, throw_ne_ok, false_and, exists_false] at added
  · simp only [bind_eq_ok, pure_eq_ok] at added
    obtain ⟨_, _, type, _, same⟩ := added
    cases same
    exact ⟨found, type, rfl⟩

/-- What DROP COLUMN has passed. -/
theorem removeColumn_passed {ifExists : Bool}
    (removed : removeColumn table tableName name ifExists = .ok (some update)) :
    (findColumn table.columns name).isSome = true ∧ checkNotClustering table tableName name "dropped" = .ok () ∧
      (∃ format, table.getFileFormat = .ok format ∧ format ≠ .csv) ∧ table.columns.length ≠ 1 ∧
      update = .columns (table.columns.filter fun column => !ciEquals column.name name) := by
  unfold removeColumn at removed
  simp only [guard_throw_eq_ok] at removed
  obtain ⟨_, removed⟩ := removed
  cases there : findColumn table.columns name with
  | none =>
      cases ifExists with
      | true => cases (by simpa only [there, Option.isNone_none, if_true, pure_eq_ok] using removed : none = some update)
      | false =>
          simp only [there, Option.isNone_none, if_true, Bool.false_eq_true, if_false, bind_eq_ok, throw_ne_ok,
            false_and, exists_false] at removed
  | some column =>
      simp only [there, Option.isNone_some, Bool.false_eq_true, if_false, bind_eq_ok, guard_throw_eq_ok, pure_eq_ok,
        exists_unit_ok] at removed
      obtain ⟨unclustered, format, decided, notCsv, several, same⟩ := removed
      cases same
      exact ⟨rfl, unclustered, ⟨format, decided, notCsv⟩, several, rfl⟩

/-- What RENAME COLUMN has passed. -/
theorem renameColumn_passed {newName : Text} (renamed : renameColumn table tableName name newName = .ok update) :
    ∃ column, findColumn table.columns name = some column ∧
      (∀ other ∈ table.columns, ciEquals other.name newName = true →
        table.columns.findIdx? (ciEquals ·.name newName) = table.columns.findIdx? (ciEquals ·.name name)) ∧
      (findColumn table.partitionKeys newName).isSome = false ∧
      table.getFileFormat = .ok .csv ∧ checkNotClustering table tableName column.name "renamed" = .ok () ∧
      update = .columns (modifyFirst name (fun column => { column with name := newName }) table.columns) := by
  unfold renameColumn at renamed
  cases found : findColumn table.columns name with
  | none => simp only [found, guard_throw_eq_ok, throw_ne_ok, and_false] at renamed
  | some column =>
      simp only [found, guard_throw_eq_ok, bind_eq_ok, exists_unit_ok, pure_eq_ok] at renamed
      obtain ⟨free, format, decided, csv, unclustered, same⟩ := renamed
      obtain ⟨free, notKey⟩ := not_or.mp (mt (Bool.or_eq_true _ _).mpr free)
      rw [not_not] at csv
      subst csv
      refine ⟨column, rfl, by simpa using free, by simpa using notKey, decided, unclustered, same.symm⟩

/-- What ALTER COLUMN TYPE has passed: it changes the type of one column. -/
theorem alterColumnType_passed {path : List Text} {targetType : LogicalType} {collation : Text} {plainCast : Bool}
    (altered : alterColumnType typeName table tableName name path targetType collation plainCast = .ok update) :
    ∃ column source type, findColumn table.columns name = some column ∧ GlueTypes.toLogicalType column.type = .ok source ∧
      GlueTypes.isAllowedHiveTypeChange source targetType = true ∧ GlueTypes.fromLogicalType typeName targetType = .ok type ∧
      update = .columns (modifyFirst name (fun column => { column with type := type }) table.columns) := by
  unfold alterColumnType at altered
  cases found : findColumn table.columns name with
  | none => simp only [found, guard_throw_eq_ok, throw_ne_ok, and_false] at altered
  | some column =>
      simp only [found, guard_throw_eq_ok, bind_eq_ok, exists_unit_ok, pure_eq_ok] at altered
      obtain ⟨_, _, _, _, source, read, allowed, type, printed, same⟩ := altered
      rw [Bool.not_eq_true', Bool.not_eq_false] at allowed
      exact ⟨column, source, type, rfl, read, allowed, printed, same.symm⟩

/-- The statement an update comes from. -/
inductive AlterMade (typeName : LogicalType → Text) (tableName : Text) (table : GlueTableInfo) :
    AlterInfo → TableUpdate → Prop where
  | setColumnComment {name : Text} {comment : Option Text} {update : TableUpdate}
      (set : GlueSchemaEntry.setColumnComment table name comment = .ok update) :
      AlterMade typeName tableName table (.setColumnComment name comment) update
  | setComment (comment : Option Text) :
      AlterMade typeName tableName table (.setComment comment) (.description (comment.getD []))
  | setTableOptions {options : List (Text × Option OptionValue)} {update : TableUpdate}
      (set : setTableProperties options = .ok update) :
      AlterMade typeName tableName table (.setTableOptions options) update
  | resetTableOptions {options : List Text} {update : TableUpdate} (reset : resetTableProperties options = .ok update) :
      AlterMade typeName tableName table (.resetTableOptions options) update
  | addColumn {newColumn : ColumnDefinition} {ifNotExists : Bool} {update : TableUpdate}
      (added : GlueSchemaEntry.addColumn typeName table tableName newColumn ifNotExists = .ok (some update)) :
      AlterMade typeName tableName table (.addColumn newColumn ifNotExists) update
  | removeColumn {name : Text} {ifExists : Bool} {update : TableUpdate}
      (removed : GlueSchemaEntry.removeColumn table tableName name ifExists = .ok (some update)) :
      AlterMade typeName tableName table (.removeColumn name ifExists) update
  | renameColumn {name newName : Text} {update : TableUpdate}
      (renamed : GlueSchemaEntry.renameColumn table tableName name newName = .ok update) :
      AlterMade typeName tableName table (.renameColumn name newName) update
  | alterColumnType {name : Text} {path : List Text} {targetType : LogicalType} {collation : Text} {plainCast : Bool}
      {update : TableUpdate}
      (altered : GlueSchemaEntry.alterColumnType typeName table tableName name path targetType collation plainCast =
        .ok update) :
      AlterMade typeName tableName table (.alterColumnType name path targetType collation plainCast) update

theorem alter_made {bound : GlueTableInfo} {info : AlterInfo}
    (altered : alter typeName tableName bound table info = .ok (some update)) :
    AlterMade typeName tableName table info update := by
  unfold alter at altered
  cases view : bound.isView with
  | true =>
      simp only [view, if_true] at altered
      cases info <;> simp only [bind_eq_ok, throw_ne_ok, false_and, exists_false] at altered
  | false =>
      simp only [view, Bool.false_eq_true, if_false, guard_throw_eq_ok] at altered
      obtain ⟨_, altered⟩ := altered
      cases info with
      | alterView => simp only [throw_ne_ok] at altered
      | other => simp only [throw_ne_ok] at altered
      | otherAlterTable => simp only [throw_ne_ok] at altered
      | setComment comment =>
          cases altered
          exact .setComment comment
      | setColumnComment =>
          simp only [bind_eq_ok, pure_eq_ok, Option.some_inj, exists_eq_right] at altered
          exact .setColumnComment altered
      | setTableOptions =>
          simp only [bind_eq_ok, pure_eq_ok, Option.some_inj, exists_eq_right] at altered
          exact .setTableOptions altered
      | resetTableOptions =>
          simp only [bind_eq_ok, pure_eq_ok, Option.some_inj, exists_eq_right] at altered
          exact .resetTableOptions altered
      | addColumn => exact .addColumn altered
      | removeColumn => exact .removeColumn altered
      | renameColumn =>
          simp only [bind_eq_ok, pure_eq_ok, Option.some_inj, exists_eq_right] at altered
          exact .renameColumn altered
      | alterColumnType =>
          simp only [bind_eq_ok, pure_eq_ok, Option.some_inj, exists_eq_right] at altered
          exact .alterColumnType altered

end Passed

end GlueSchemaEntry

end DuckGlue
