import DuckGlue.Catalog.TableProperties
import DuckGlue.Catalog.TableUpdates

/-! # What an UpdateTable request sends

UpdateTable replaces the whole definition of a table. `UpdateGlueTable` copies the fetched
definition field by field and changes in it what the statement is about. The columns of a
column statement go through the extension's own columns, which have no Parameters.
-/

namespace DuckGlue

open StringUtil GlueSchemaEntry GluePartitionFunctions Fallible

/-- `Aws::Glue::Model::Column`, as its getters give it: what is not set is empty. -/
structure AwsColumn where
  name : Text
  type : Text
  comment : Text := []
  parameters : Parameters := ∅

/-- `Aws::Glue::Model::StorageDescriptor`, as its getters give it. -/
structure AwsStorageDescriptor (Rest : Type) where
  columns : List AwsColumn := []
  location : Text := []
  inputFormat : Text := []
  /-- The SerializationLibrary and Parameters of its SerdeInfo. -/
  serdeLibrary : Text := []
  serdeParameters : Parameters := ∅
  bucketColumns : List Text := []
  numberOfBuckets : Option Int := none
  sortColumns : List (Text × Int) := []
  /-- The fields `ToTableInfo` does not read. -/
  rest : Rest

/-- `Aws::Glue::Model::Table`; a field that has not been set is missing. -/
structure AwsTable (Target Rest : Type) where
  name : Text
  description : Option Text := none
  owner : Option Text := none
  lastAccessTime : Option Int := none
  lastAnalyzedTime : Option Int := none
  retention : Option Int := none
  partitionKeys : Option (List AwsColumn) := none
  viewOriginalText : Option Text := none
  viewExpandedText : Option Text := none
  tableType : Option Text := none
  parameters : Option Parameters := none
  targetTable : Option Target := none
  storageDescriptor : AwsStorageDescriptor Rest
  versionId : Option Text := none
  createTime : Option Int := none

/-- `Aws::Glue::Model::TableInput` -/
structure AwsTableInput (Target Rest : Type) where
  name : Text
  description : Option Text
  owner : Option Text
  lastAccessTime : Option Int
  lastAnalyzedTime : Option Int
  retention : Option Int
  partitionKeys : Option (List AwsColumn)
  viewOriginalText : Option Text
  viewExpandedText : Option Text
  tableType : Option Text
  parameters : Option Parameters
  targetTable : Option Target
  storageDescriptor : AwsStorageDescriptor Rest

/-- `ToColumns` of one column. -/
def toColumn (column : AwsColumn) : GlueColumn :=
  { name := column.name, type := column.type, comment := column.comment }

/-- `ToAwsColumns` of one column. -/
def toAwsColumn (column : GlueColumn) : AwsColumn :=
  { name := column.name, type := column.type, comment := column.comment }

variable {Target Rest : Type}

/-- `ToTableInfo` -/
def toTableInfo (table : AwsTable Target Rest) (schemaName : Text) : GlueTableInfo where
  name := table.name
  schemaName := schemaName
  glueTableType := table.tableType.getD []
  description := table.description.getD []
  location := table.storageDescriptor.location
  inputFormat := table.storageDescriptor.inputFormat
  serdeLibrary := table.storageDescriptor.serdeLibrary
  serdeParameters := table.storageDescriptor.serdeParameters
  columns := table.storageDescriptor.columns.map toColumn
  partitionKeys := (table.partitionKeys.getD []).map toColumn
  bucketColumns := table.storageDescriptor.bucketColumns
  numberOfBuckets := table.storageDescriptor.numberOfBuckets.getD (-1)
  sortColumns := table.storageDescriptor.sortColumns.map fun column : Text × Int =>
    { name := column.1, sortOrder := if column.2 = 0 then .descending else .ascending }
  parameters := table.parameters.getD ∅
  versionId := table.versionId.getD []
  createTimeMs := table.createTime.getD 0

namespace GlueAPI

/-- `UpdateGlueTable`: the TableInput it sends of the fetched table. -/
def updateGlueTable (table : AwsTable Target Rest) (modify : AwsTableInput Target Rest → AwsTableInput Target Rest) :
    AwsTableInput Target Rest :=
  modify {
    name := table.name
    description := table.description
    owner := table.owner
    lastAccessTime := table.lastAccessTime
    lastAnalyzedTime := table.lastAnalyzedTime
    retention := table.retention
    partitionKeys := table.partitionKeys
    viewOriginalText := table.viewOriginalText
    viewExpandedText := table.viewExpandedText
    tableType := table.tableType
    parameters := table.parameters
    targetTable := table.targetTable
    storageDescriptor := table.storageDescriptor }

/-- `UpdateTableColumns`, `UpdateTablePartitionKeys`, `UpdateTableDescription`,
`SetTableLocation` and `UpdateTableParameters`: what they change of it. -/
def modify (input : AwsTableInput Target Rest) : TableUpdate → AwsTableInput Target Rest
  | .columns columns =>
      { input with storageDescriptor := { input.storageDescriptor with columns := columns.map toAwsColumn } }
  | .partitionKeys partitionKeys => { input with partitionKeys := some (partitionKeys.map toAwsColumn) }
  | .description description =>
      let parameters := input.parameters.getD ∅
      { input with
        description := some description
        parameters := some (if description = [] then parameters.erase "comment".toList
          else parameters.insert "comment".toList description) }
  | .location location => { input with storageDescriptor := { input.storageDescriptor with location } }
  | .parameters set unset =>
      { input with
        parameters := some (set.foldl (fun parameters entry => parameters.insert entry.1 entry.2)
          (unset.foldl (fun parameters key => parameters.erase key) (input.parameters.getD ∅))) }

end GlueAPI

/-- What a statement names of a definition. -/
inductive Named where
  /-- The comment of the first key or column of that name. -/
  | columnComment (name comment : Text)
  | addedColumn
  | removedColumn (name : Text)
  /-- The first column of that name. -/
  | changedColumn (name : Text)
  | allColumns
  | tableComment (description : Text)
  | location
  | properties (keys : List Text)

/-- What an ALTER or COMMENT statement that has something to send names. -/
def AlterInfo.named : AlterInfo → Option Named
  | .setColumnComment name comment => some (.columnComment name (comment.getD []))
  | .setComment comment => some (.tableComment (comment.getD []))
  | .setTableOptions tableOptions => some (.properties (tableOptions.map (·.1)))
  | .resetTableOptions tableOptions => some (.properties tableOptions)
  | .addColumn _ _ => some .addedColumn
  | .removeColumn name _ => some (.removedColumn name)
  | .renameColumn name _ => some (.changedColumn name)
  | .alterColumnType name _ _ _ _ => some (.changedColumn name)
  | .alterView | .otherAlterTable _ | .other => none

def TableStatement.named : TableStatement → Option Named
  | .alter _ info => info.named
  | .replaceColumns _ _ _ => some .allColumns
  | .setTableLocation _ | .alterTable _ => some .location

/-- The first column of a name changed. -/
def changeFirst (name : Text) (change : AwsColumn → AwsColumn) : List AwsColumn → List AwsColumn
  | [] => []
  | column :: columns =>
      if ciEquals column.name name then change column :: columns else column :: changeFirst name change columns

/-- A partition key is named before a column. -/
def AwsTable.namesKey (table : AwsTable Target Rest) (name : Text) : Bool :=
  (table.partitionKeys.getD []).any (ciEquals ·.name name)

namespace Named

/-- The columns with those that are named changed. -/
def ColumnsChange (columns : List AwsColumn) : Named → List AwsColumn → Prop
  | .columnComment name comment, sent => sent = changeFirst name (fun column => { column with comment }) columns
  | .addedColumn, sent => ∃ column, sent = columns ++ [column]
  | .removedColumn name, sent => sent = columns.filter fun column => !ciEquals column.name name
  | .changedColumn name, sent => ∃ change, sent = changeFirst name change columns
  | .allColumns, _ => True
  | .tableComment _, sent | .location, sent | .properties _, sent => sent = columns

/-- The input is the definition except for what is named. -/
def ChangesOnly (table : AwsTable Target Rest) (input : AwsTableInput Target Rest) (named : Named) : Prop :=
  let same := GlueAPI.updateGlueTable table id
  match named with
  | .columnComment name _ =>
      if table.namesKey name then
        ∃ keys, ColumnsChange (table.partitionKeys.getD []) named keys ∧ input = { same with partitionKeys := some keys }
      else
        ∃ columns, ColumnsChange table.storageDescriptor.columns named columns ∧
          input = { same with storageDescriptor := { table.storageDescriptor with columns } }
  | .addedColumn | .removedColumn _ | .changedColumn _ | .allColumns =>
      ∃ columns, ColumnsChange table.storageDescriptor.columns named columns ∧
        input = { same with storageDescriptor := { table.storageDescriptor with columns } }
  | .tableComment description =>
      ∃ parameters : Parameters, (∀ key, key ≠ "comment".toList → parameters.lookup key = (table.parameters.getD ∅).lookup key) ∧
        parameters.lookup "comment".toList = (if description = [] then none else some description) ∧
        input = { same with description := some description, parameters := some parameters }
  | .location => ∃ location, input = { same with storageDescriptor := { table.storageDescriptor with location } }
  | .properties keys =>
      ∃ parameters : Parameters, (∀ key ∉ keys, parameters.lookup key = (table.parameters.getD ∅).lookup key) ∧
        input = { same with parameters := some parameters }

/-- No column that is sent again and not named has Parameters. -/
def KeepsParameters (table : AwsTable Target Rest) : Named → Prop
  | .columnComment name _ =>
      if table.namesKey name then ∀ key ∈ table.partitionKeys.getD [], key.parameters = ∅
      else ∀ column ∈ table.storageDescriptor.columns, column.parameters = ∅
  | .addedColumn => ∀ column ∈ table.storageDescriptor.columns, column.parameters = ∅
  | .removedColumn name =>
      ∀ column ∈ table.storageDescriptor.columns, ciEquals column.name name = false → column.parameters = ∅
  | .changedColumn name =>
      ∀ column ∈ table.storageDescriptor.columns.eraseP (ciEquals ·.name name), column.parameters = ∅
  | .allColumns | .tableComment _ | .location | .properties _ => True

end Named

section Columns

variable {columns : List AwsColumn} {name : Text}

theorem toAwsColumn_toColumn (column : AwsColumn) : toAwsColumn (toColumn column) = { column with parameters := ∅ } := rfl

theorem toAwsColumn_toColumn_eq {column : AwsColumn} : toAwsColumn (toColumn column) = column ↔ column.parameters = ∅ := by
  cases column
  rw [toAwsColumn_toColumn]
  simp [eq_comm]

/-- Columns that go through the extension's come back when they have no Parameters. -/
theorem map_roundTrip : (columns.map toColumn).map toAwsColumn = columns ↔ ∀ column ∈ columns, column.parameters = ∅ := by
  induction columns with
  | nil => simp
  | cons column columns ih =>
      rw [List.map_cons, List.map_cons, List.cons_eq_cons, toAwsColumn_toColumn_eq, ih, List.forall_mem_cons]

theorem append_roundTrip {added : GlueColumn} :
    (∃ column, (columns.map toColumn ++ [added]).map toAwsColumn = columns ++ [column]) ↔
      ∀ column ∈ columns, column.parameters = ∅ := by
  rw [List.map_append, ← map_roundTrip]
  constructor
  · intro ⟨column, same⟩
    exact (List.append_inj same (by simp)).1
  · intro same
    exact ⟨toAwsColumn added, by rw [same]; rfl⟩

theorem filter_roundTrip :
    ((columns.map toColumn).filter fun column => !ciEquals column.name name).map toAwsColumn =
        columns.filter (fun column => !ciEquals column.name name) ↔
      ∀ column ∈ columns, ciEquals column.name name = false → column.parameters = ∅ := by
  have kept : (columns.map toColumn).filter (fun column => !ciEquals column.name name) =
      (columns.filter fun column => !ciEquals column.name name).map toColumn := List.filter_map
  rw [kept, map_roundTrip]
  simp only [List.mem_filter, Bool.not_eq_true', and_imp]

theorem comment_roundTrip {comment : Text} :
    (modifyFirst name (fun column => { column with comment }) (columns.map toColumn)).map toAwsColumn =
        changeFirst name (fun column => { column with comment }) columns ↔
      ∀ column ∈ columns, column.parameters = ∅ := by
  induction columns with
  | nil => simp [modifyFirst, changeFirst]
  | cons column columns ih =>
      rw [List.map_cons, modifyFirst, changeFirst, List.forall_mem_cons]
      cases named : ciEquals column.name name with
      | true =>
          have commented : toAwsColumn { toColumn column with comment } = { column with comment } ↔
              column.parameters = ∅ := by
            cases column
            simp [toAwsColumn, toColumn, eq_comm]
          rw [if_pos (by exact named), if_pos rfl, List.map_cons, List.cons_eq_cons, commented, map_roundTrip]
      | false =>
          rw [if_neg (by simp [toColumn, named]), if_neg (by simp), List.map_cons, List.cons_eq_cons,
            toAwsColumn_toColumn_eq, ih]

theorem change_roundTrip {change : GlueColumn → GlueColumn} :
    (∃ changed, (modifyFirst name change (columns.map toColumn)).map toAwsColumn = changeFirst name changed columns) ↔
      ∀ column ∈ columns.eraseP (ciEquals ·.name name), column.parameters = ∅ := by
  induction columns with
  | nil => exact ⟨fun _ => by simp, fun _ => ⟨id, rfl⟩⟩
  | cons column columns ih =>
      rw [List.map_cons, modifyFirst]
      cases named : ciEquals column.name name with
      | true =>
          rw [if_pos (by exact named), List.eraseP_cons_of_pos (by exact named), ← map_roundTrip]
          constructor
          · intro changes
            obtain ⟨changed, same⟩ := changes
            rw [changeFirst, if_pos named] at same
            exact (List.cons_eq_cons.mp same).2
          · intro same
            refine ⟨fun _ => toAwsColumn (change (toColumn column)), ?_⟩
            rw [changeFirst, if_pos named, List.map_cons, same]
      | false =>
          have differs : ¬ ciEquals column.name name = true := by simp [named]
          rw [if_neg (by exact differs), List.eraseP_cons_of_neg (by exact differs), List.forall_mem_cons, ← ih,
            ← toAwsColumn_toColumn_eq]
          constructor
          · intro changes
            obtain ⟨changed, same⟩ := changes
            rw [changeFirst, if_neg differs] at same
            obtain ⟨head, tail⟩ := List.cons_eq_cons.mp same
            exact ⟨head, changed, tail⟩
          · intro changes
            obtain ⟨head, changed, tail⟩ := changes
            refine ⟨changed, ?_⟩
            rw [changeFirst, if_neg differs, List.map_cons, head, tail]

end Columns

section Requests

variable {table : AwsTable Target Rest} {named : Named}

/-- A request of columns differs in them only. -/
theorem columns_sent {columns : List GlueColumn} {changed : List AwsColumn → Prop} :
    (∃ sent, changed sent ∧ GlueAPI.updateGlueTable table (GlueAPI.modify · (.columns columns)) =
        { GlueAPI.updateGlueTable table id with
          storageDescriptor := { table.storageDescriptor with columns := sent } }) ↔
      changed (columns.map toAwsColumn) := by
  constructor
  · intro ⟨sent, changes, same⟩
    have sentColumns : columns.map toAwsColumn = sent := congrArg (·.storageDescriptor.columns) same
    rw [sentColumns]
    exact changes
  · intro changes
    exact ⟨columns.map toAwsColumn, changes, rfl⟩

theorem partitionKeys_sent {keys : List GlueColumn} {changed : List AwsColumn → Prop} :
    (∃ sent, changed sent ∧ GlueAPI.updateGlueTable table (GlueAPI.modify · (.partitionKeys keys)) =
        { GlueAPI.updateGlueTable table id with partitionKeys := some sent }) ↔
      changed (keys.map toAwsColumn) := by
  constructor
  · intro ⟨sent, changes, same⟩
    have sentKeys : some (keys.map toAwsColumn) = some sent := congrArg (·.partitionKeys) same
    cases sentKeys
    exact changes
  · intro changes
    exact ⟨keys.map toAwsColumn, changes, rfl⟩

/-- A comment also stands in the parameter of that name. -/
theorem description_sent (description : Text) :
    Named.ChangesOnly table (GlueAPI.updateGlueTable table (GlueAPI.modify · (.description description)))
      (.tableComment description) := by
  refine ⟨_, ?_, ?_, rfl⟩
  · intro key differs
    change (if description = [] then (table.parameters.getD ∅).erase "comment".toList
      else (table.parameters.getD ∅).insert "comment".toList description).lookup key = _
    split_ifs
    · exact AList.lookup_erase_ne differs
    · exact AList.lookup_insert_ne differs
  · change (if description = [] then (table.parameters.getD ∅).erase "comment".toList
      else (table.parameters.getD ∅).insert "comment".toList description).lookup "comment".toList = _
    split_ifs
    · exact AList.lookup_erase _ _
    · exact AList.lookup_insert _

theorem parameters_sent {set : List (Text × Text)} {unset keys : List Text} (setNamed : ∀ entry ∈ set, entry.1 ∈ keys)
    (unsetNamed : ∀ key ∈ unset, key ∈ keys) :
    Named.ChangesOnly table (GlueAPI.updateGlueTable table (GlueAPI.modify · (.parameters set unset)))
      (.properties keys) := by
  refine ⟨_, ?_, rfl⟩
  intro key other
  change (set.foldl _ (unset.foldl _ (table.parameters.getD ∅))).lookup key = _
  rw [lookup_assignAll_of_ne, lookup_removeAll, if_neg fun member => other (unsetNamed key member)]
  intro entry member same
  rw [same] at other
  exact other (setNamed entry member)

theorem findColumn_isSome {columns : List AwsColumn} {name : Text} :
    (findColumn (columns.map toColumn) name).isSome = columns.any (ciEquals ·.name name) := by
  unfold findColumn
  rw [List.find?_map, Option.isSome_map, Bool.eq_iff_iff, List.find?_isSome, List.any_eq_true]
  rfl

/-- A comment of a column goes with the other keys or columns. -/
theorem setColumnComment_sent {schemaName name : Text} {comment : Option Text} {update : TableUpdate}
    (set : setColumnComment (toTableInfo table schemaName) name comment = .ok update) :
    Named.ChangesOnly table (GlueAPI.updateGlueTable table (GlueAPI.modify · update))
        (.columnComment name (comment.getD [])) ↔
      Named.KeepsParameters table (.columnComment name (comment.getD [])) := by
  have key : (findColumn (toTableInfo table schemaName).partitionKeys name).isSome = table.namesKey name :=
    findColumn_isSome
  unfold setColumnComment at set
  dsimp only at set
  rw [key] at set
  unfold Named.ChangesOnly Named.KeepsParameters
  dsimp only
  by_cases named : table.namesKey name = true
  · rw [if_pos named] at set ⊢
    cases set
    rw [if_pos named, partitionKeys_sent]
    exact comment_roundTrip
  · rw [if_neg named] at set ⊢
    split_ifs at set with found
    cases set
    rw [if_neg named, columns_sent]
    exact comment_roundTrip

/-- The keys of an accepted SET are those of its options. -/
theorem setTableProperties_sent {options : List (Text × Option OptionValue)} {update : TableUpdate}
    (set : setTableProperties options = .ok update) :
    Named.ChangesOnly table (GlueAPI.updateGlueTable table (GlueAPI.modify · update))
      (.properties (options.map (·.1))) := by
  simp only [setTableProperties, bind_eq_ok, pure_eq_ok] at set
  obtain ⟨evaluated, values, entries, checked, rfl⟩ := set
  apply parameters_sent
  · intro entry member
    obtain ⟨option, isOption, passed⟩ := mem_of_mapM checked member
    simp only [bind_eq_ok, pure_eq_ok, exists_unit_ok] at passed
    rw [evaluateOptions_ok values, ← passed.2]
    simpa using List.mem_map_of_mem (f := fun option : Text × OptionValue => option.1) isOption
  · simp

theorem alter_sent {functions : StatementFunctions} {tableName schemaName : Text} {bound : GlueTableInfo} {info : AlterInfo}
    {update : TableUpdate}
    (altered : alter functions.typeName tableName bound (toTableInfo table schemaName) info = .ok (some update)) :
    ∃ named, info.named = some named ∧
      (Named.ChangesOnly table (GlueAPI.updateGlueTable table (GlueAPI.modify · update)) named ↔
        Named.KeepsParameters table named) := by
  cases alter_made altered with
  | setColumnComment set => exact ⟨_, rfl, setColumnComment_sent set⟩
  | setComment comment => exact ⟨_, rfl, iff_of_true (description_sent _) trivial⟩
  | setTableOptions set => exact ⟨_, rfl, iff_of_true (setTableProperties_sent set) trivial⟩
  | resetTableOptions reset =>
      simp only [resetTableProperties, bind_eq_ok, pure_eq_ok, exists_unit_ok] at reset
      obtain ⟨_, rfl⟩ := reset
      exact ⟨_, rfl, iff_of_true (parameters_sent (by simp) fun _ member => member) trivial⟩
  | addColumn added =>
      obtain ⟨_, type, rfl⟩ := addColumn_passed added
      refine ⟨_, rfl, ?_⟩
      exact columns_sent.trans append_roundTrip
  | removeColumn removed =>
      obtain ⟨_, _, _, _, rfl⟩ := removeColumn_passed removed
      exact ⟨_, rfl, columns_sent.trans filter_roundTrip⟩
  | renameColumn renamed =>
      obtain ⟨_, _, _, _, _, _, rfl⟩ := renameColumn_passed renamed
      exact ⟨_, rfl, columns_sent.trans change_roundTrip⟩
  | alterColumnType altered =>
      obtain ⟨_, _, _, _, _, _, _, rfl⟩ := alterColumnType_passed altered
      exact ⟨_, rfl, columns_sent.trans change_roundTrip⟩

end Requests

/-- The table Glue has after a request, with the version and time it gave it. -/
def AwsTable.ofInput (input : AwsTableInput Target Rest) (versionId : Text) (createTime : Int) : AwsTable Target Rest where
  name := input.name
  description := input.description
  owner := input.owner
  lastAccessTime := input.lastAccessTime
  lastAnalyzedTime := input.lastAnalyzedTime
  retention := input.retention
  partitionKeys := input.partitionKeys
  viewOriginalText := input.viewOriginalText
  viewExpandedText := input.viewExpandedText
  tableType := input.tableType
  parameters := input.parameters
  targetTable := input.targetTable
  storageDescriptor := input.storageDescriptor
  versionId := some versionId
  createTime := some createTime

theorem map_toColumn_toAwsColumn {columns : List GlueColumn} (unsorted : ∀ column ∈ columns, column.sortOrder = .unsorted) :
    (columns.map toAwsColumn).map toColumn = columns := by
  induction columns with
  | nil => rfl
  | cons column columns ih =>
      rw [List.forall_mem_cons] at unsorted
      have same : toColumn (toAwsColumn column) = column := by
        cases column
        simp [toColumn, toAwsColumn, ← unsorted.1]
      rw [List.map_cons, List.map_cons, same, ih unsorted.2]

/-- The columns an update sends; only sort columns have an order. -/
def TableUpdate.sentColumns : TableUpdate → List GlueColumn
  | .columns given => given
  | .partitionKeys given => given
  | .description _ | .location _ | .parameters _ _ => []

/-- What is fetched after the request is the definition the update is applied to. -/
theorem toTableInfo_updateGlueTable {table : AwsTable Target Rest} {schemaName versionId : Text} {createTime : Int}
    {update : TableUpdate} (unsorted : ∀ column ∈ update.sentColumns, column.sortOrder = .unsorted) :
    toTableInfo (.ofInput (GlueAPI.updateGlueTable table (GlueAPI.modify · update)) versionId createTime) schemaName =
      { update.apply (toTableInfo table schemaName) with versionId, createTimeMs := createTime } := by
  cases update with
  | columns columns =>
      have same : (columns.map toAwsColumn).map toColumn = columns := map_toColumn_toAwsColumn unsorted
      simp only [toTableInfo, AwsTable.ofInput, GlueAPI.updateGlueTable, GlueAPI.modify, TableUpdate.apply, same,
        Option.getD_some]
  | partitionKeys partitionKeys =>
      have same : (partitionKeys.map toAwsColumn).map toColumn = partitionKeys := map_toColumn_toAwsColumn unsorted
      simp only [toTableInfo, AwsTable.ofInput, GlueAPI.updateGlueTable, GlueAPI.modify, TableUpdate.apply, same,
        Option.getD_some]
  | description | location | parameters => rfl

/-- A statement changes in the definition Glue has only what it names just when none of
the columns it sends along has Parameters. -/
theorem updateGlueTable_changesOnly_iff {functions : StatementFunctions} {bound : GlueTableInfo}
    {table : AwsTable Target Rest} {schemaName : Text} {statement : TableStatement} {work : List TableWork}
    {update : TableUpdate} (passed : statement.check functions bound (toTableInfo table schemaName) = .ok work)
    (member : .update update ∈ work) :
    ∃ named, statement.named = some named ∧
      (Named.ChangesOnly table (GlueAPI.updateGlueTable table (GlueAPI.modify · update)) named ↔
        Named.KeepsParameters table named) := by
  cases statement with
  | alter tableName info =>
      simp only [TableStatement.check, bind_eq_ok, pure_eq_ok] at passed
      obtain ⟨made, altered, rfl⟩ := passed
      cases made with
      | none => cases member
      | some made =>
          have same : update = made := by simpa using member
          rw [same]
          exact alter_sent altered
  | replaceColumns columns comments keepComments =>
      simp only [TableStatement.check, bind_eq_ok, pure_eq_ok] at passed
      obtain ⟨made, replaced, rfl⟩ := passed
      obtain ⟨_, _, _, commented, rfl, _⟩ := replaceColumns_passed _ _ replaced
      have same : update = .columns commented := by simpa using member
      rw [same]
      exact ⟨_, rfl, columns_sent⟩
  | setTableLocation location =>
      simp only [TableStatement.check, bind_eq_ok, pure_eq_ok, GluePartitionFunctions.setTableLocation] at passed
      obtain ⟨made, ⟨_, _, parsed, _, rfl⟩, rfl⟩ := passed
      have same : update = .location parsed := by simpa using member
      rw [same]
      exact ⟨_, rfl, iff_of_true ⟨parsed, rfl⟩ trivial⟩
  | alterTable actions =>
      simp only [TableStatement.check, bind_eq_ok, pure_eq_ok] at passed
      obtain ⟨steps, _, rfl⟩ := passed
      have later : .update update ∈ steps.flatMap TableStatement.stepWork := by simpa using member
      obtain ⟨step, _, inStep⟩ := List.mem_flatMap.mp later
      cases step with
      | setTableLocation location =>
          have same : update = .location location := by simpa [TableStatement.stepWork] using inStep
          rw [same]
          exact ⟨_, rfl, iff_of_true ⟨location, rfl⟩ trivial⟩
      | add | drop | rename | setPartitionLocation => simp [TableStatement.stepWork] at inStep

section Examples

/-- A table with a column that has Parameters, as a connector of another engine adds them. -/
def annotatedTable : AwsTable Unit Unit where
  name := "events"
  tableType := some "EXTERNAL_TABLE".toList
  storageDescriptor :=
    { columns := [
        { name := "id", type := "int", parameters := AList.insert "iceberg.field.id".toList "1".toList ∅ },
        { name := "note", type := "string" }]
      location := "s3://bucket/events"
      inputFormat := "org.apache.hadoop.mapred.TextInputFormat"
      serdeLibrary := "org.apache.hadoop.hive.serde2.lazy.LazySimpleSerDe"
      rest := () }

/-- `COMMENT ON COLUMN events.note IS 'text'` -/
def commentNote : TableStatement := .alter "events" (.setColumnComment "note" (some "text".toList))

/-- The update the comment makes. -/
def noteUpdate : TableUpdate :=
  .columns [{ name := "id", type := "int" }, { name := "note", type := "string", comment := "text" }]

/-- The same table before the connector wrote to it. -/
def plainTable : AwsTable Unit Unit :=
  { annotatedTable with
    storageDescriptor :=
      { annotatedTable.storageDescriptor with
        columns := [{ name := "id", type := "int" }, { name := "note", type := "string" }] } }

theorem changesOnly_commentNote :
    commentNote.check TableUpdates.textFunctions {} (toTableInfo plainTable "db") = .ok [.update noteUpdate, .refresh] ∧
      ∃ named, commentNote.named = some named ∧
        (Named.ChangesOnly plainTable (GlueAPI.updateGlueTable plainTable (GlueAPI.modify · noteUpdate)) named ↔
          Named.KeepsParameters plainTable named) := by
  have passed : commentNote.check TableUpdates.textFunctions {} (toTableInfo plainTable "db") =
      .ok [.update noteUpdate, .refresh] := by rfl
  exact ⟨passed, updateGlueTable_changesOnly_iff passed List.mem_cons_self⟩

/-- A comment on one column takes the Parameters from the other. -/
theorem commentNote_losesParameters :
    commentNote.check TableUpdates.textFunctions {} (toTableInfo annotatedTable "db") =
        .ok [.update noteUpdate, .refresh] ∧
      commentNote.named = some (.columnComment "note" "text") ∧
      (GlueAPI.updateGlueTable annotatedTable (GlueAPI.modify · noteUpdate)).storageDescriptor.columns.map
          (fun column => (column.name, column.parameters)) = [("id".toList, ∅), ("note".toList, ∅)] ∧
      ¬ Named.ChangesOnly annotatedTable (GlueAPI.updateGlueTable annotatedTable (GlueAPI.modify · noteUpdate))
        (.columnComment "note" "text") := by
  refine ⟨by rfl, by rfl, by rfl, ?_⟩
  intro changes
  have made : setColumnComment (toTableInfo annotatedTable "db") "note" (some "text".toList) = .ok noteUpdate := by rfl
  have kept := (setColumnComment_sent made).mp changes
  unfold Named.KeepsParameters at kept
  dsimp only at kept
  rw [if_neg (by decide)] at kept
  have entries := congrArg (·.entries) (kept _ List.mem_cons_self)
  cases entries

end Examples

end DuckGlue
