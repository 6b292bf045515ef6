import DuckGlue.Catalog.ColumnSet
import DuckGlue.Catalog.GlueTableSet
import DuckGlue.Core.TypeWidening
import DuckGlue.Planning.PartitionReader

/-! # Partitions of a table whose columns change

A partition declares the columns its table had. ADD COLUMN, RENAME COLUMN, ALTER COLUMN
TYPE and glue_replace_columns leave every one of them readable as the column it is matched
with now: by position in a csv table, by name in others.
-/

namespace DuckGlue

open StringUtil Fallible GlueTypes GlueSchemaEntry GluePartitionFunctions ColumnSet

/-- `CreateEntry` of a table: its columns with the types they are read as, keys last. -/
def GlueTable.fromTableInfo (table : GlueTableInfo) : Except Exception GlueTable := do
  GlueTableSet.addColumns [] (table.columns ++ table.partitionKeys)
  let columns ← (table.columns ++ table.partitionKeys).mapM fun column => do
    let type ← toLogicalType column.type
    return (column.name, type)
  return { tableInfo := table, columns }

namespace ChangedColumns

/-- A type that is read after a change was readable before as one that widens to it. -/
def Follows (before after : Text) : Prop :=
  ∀ type, toLogicalType after = .ok type → ∃ earlier, toLogicalType before = .ok earlier ∧ Widens earlier type

def FollowsAt (before after : List GlueColumn) : Prop :=
  ∀ (index : ℕ) (column : GlueColumn), before[index]? = some column →
    ∃ column', after[index]? = some column' ∧ Follows column.type column'.type

def FollowsNamed (before after : List GlueColumn) : Prop :=
  ∀ column ∈ before, ∃ column' ∈ after, lower column'.name = lower column.name ∧ Follows column.type column'.type

/-- What the columns of a table are, after changes, to those it had. -/
structure StaysReadable (table table' : GlueTableInfo) : Prop where
  serdeLibrary : table'.serdeLibrary = table.serdeLibrary
  positions : IsCsv table → FollowsAt table.columns table'.columns
  names : ¬IsCsv table → (names table'.columns).Nodup →
    (names table.columns).Nodup ∧ FollowsNamed table.columns table'.columns

section Follows

variable {a b c : Text} {before middle after columns : List GlueColumn} {column : GlueColumn} {name : Text}

theorem Follows.refl (a : Text) : Follows a a := fun type read => ⟨type, read, Widens.refl type⟩

theorem Follows.trans (first : Follows a b) (second : Follows b c) : Follows a c := by
  intro type read
  obtain ⟨between, readBetween, later⟩ := second type read
  obtain ⟨earlier, readEarlier, sooner⟩ := first between readBetween
  exact ⟨earlier, readEarlier, sooner.trans later⟩

theorem FollowsAt.trans (first : FollowsAt before middle) (second : FollowsAt middle after) : FollowsAt before after := by
  intro index column here
  obtain ⟨column', there, follows⟩ := first index column here
  obtain ⟨column'', last, follows'⟩ := second index column' there
  exact ⟨column'', last, follows.trans follows'⟩

theorem FollowsNamed.trans (first : FollowsNamed before middle) (second : FollowsNamed middle after) :
    FollowsNamed before after := by
  intro column here
  obtain ⟨column', there, same, follows⟩ := first column here
  obtain ⟨column'', last, same', follows'⟩ := second column' there
  exact ⟨column'', last, same'.trans same, follows.trans follows'⟩

/-- Where positions keep their names the columns of a name follow too. -/
theorem FollowsAt.named (follows : FollowsAt before after)
    (same : ∀ (index : ℕ) (key : Text), (names before)[index]? = some key → (names after)[index]? = some key) :
    FollowsNamed before after := by
  intro column here
  obtain ⟨index, at_⟩ := List.mem_iff_getElem?.mp here
  obtain ⟨column', there, follows⟩ := follows index column at_
  refine ⟨column', List.mem_of_getElem? there, ?_, follows⟩
  have key := same index (lower column.name) (by rw [names, List.getElem?_map, at_]; rfl)
  rw [names, List.getElem?_map, there] at key
  exact Option.some.inj key

theorem followsAt_append (before more : List GlueColumn) : FollowsAt before (before ++ more) := by
  intro index column here
  refine ⟨column, ?_, Follows.refl _⟩
  rw [List.getElem?_append_left (List.getElem?_eq_some_iff.mp here).1]
  exact here

/-- The column of a name that is changed is the one that is found. -/
theorem getElem?_modifyFirst {change : GlueColumn → GlueColumn} {index : ℕ} (here : columns[index]? = some column) :
    (modifyFirst name change columns)[index]? = some column ∨
      (modifyFirst name change columns)[index]? = some (change column) ∧ findColumn columns name = some column := by
  induction columns generalizing index with
  | nil => cases here
  | cons head columns ih =>
      unfold modifyFirst findColumn
      cases named : ciEquals head.name name with
      | true =>
          simp only [if_true, List.find?_cons, named]
          cases index with
          | zero =>
              cases here
              exact .inr ⟨rfl, rfl⟩
          | succ index => exact .inl here
      | false =>
          simp only [Bool.false_eq_true, if_false, List.find?_cons, named]
          cases index with
          | zero => exact .inl here
          | succ index => exact ih here

theorem followsAt_modifyFirst {change : GlueColumn → GlueColumn}
    (follows : ∀ column, findColumn columns name = some column → Follows column.type (change column).type) :
    FollowsAt columns (modifyFirst name change columns) := by
  intro index column here
  rcases @getElem?_modifyFirst _ _ name change _ here with same | ⟨changed, found⟩
  · exact ⟨column, same, Follows.refl _⟩
  · exact ⟨change column, changed, follows column found⟩

theorem follows_stored {typeName : LogicalType → Text} {source target : LogicalType} (read : toLogicalType a = .ok source)
    (allowed : isAllowedHiveTypeChange source target = true) (printed : fromLogicalType typeName target = .ok b) :
    Follows a b := by
  intro type stored
  obtain ⟨form, readForm, widens⟩ := widens_of_stored read allowed printed
  rw [stored] at readForm
  cases readForm
  exact ⟨source, read, widens⟩

end Follows

section Replaced

variable {typeName : LogicalType → Text} {parseType : Text → Except Exception LogicalType} {table : GlueTableInfo}
  {columns commented : List GlueColumn} {name : Text}

theorem getElem?_applyComments {comments : List (Text × Option Text)} (applied : applyComments columns comments = .ok commented)
    {index : ℕ} {column : GlueColumn} (here : columns[index]? = some column) :
    ∃ column', commented[index]? = some column' ∧ column'.name = column.name ∧ column'.type = column.type := by
  induction comments generalizing columns column with
  | nil =>
      cases applied
      exact ⟨column, here, rfl, rfl⟩
  | cons comment comments ih =>
      unfold applyComments at applied
      cases found : lastIndex (columns.map (·.name)) comment.1 with
      | none => simp only [found, reduceCtorEq] at applied
      | some position =>
          simp only [found] at applied
          have changed : ∃ column', (columns.modify position fun column => { column with comment := comment.2.getD [] })[index]? =
              some column' ∧ column'.name = column.name ∧ column'.type = column.type := by
            rw [List.getElem?_modify, here]
            refine ⟨_, rfl, ?_, ?_⟩
            · split <;> rfl
            · split <;> rfl
          obtain ⟨column', there, sameName, sameType⟩ := changed
          obtain ⟨column'', last, lastName, lastType⟩ := ih applied there
          exact ⟨column'', last, lastName.trans sameName, lastType.trans sameType⟩

/-- The column a given one is matched with is followed by it. -/
theorem replaceColumn_follows {byPosition keepComments : Bool} {index : ℕ} {field : Text × Option Text}
    {column previous : GlueColumn} (matched : previousColumn table byPosition index field.1 = some previous)
    (replaced : replaceColumn typeName parseType table byPosition keepComments index field = .ok column) :
    Follows previous.type column.type := by
  unfold replaceColumn at replaced
  cases given : field.2 with
  | none => simp only [given, throw_ne_ok] at replaced
  | some given' =>
      simp only [given, matched, bind_eq_ok, guard_throw_eq_ok, pure_eq_ok] at replaced
      obtain ⟨_, _, stored, _, type, read, source, readSource, allowed, _, rfl, _, rfl⟩ := replaced
      rw [Bool.not_eq_true', Bool.not_eq_false] at allowed
      intro type' read'
      rw [read] at read'
      cases read'
      exact ⟨source, readSource, widens_of_allowed allowed⟩

/-- A name that a column has is found. -/
theorem exists_previousColumn {index : ℕ} (distinct : (names table.columns).Nodup) {column : GlueColumn}
    (here : column ∈ table.columns) (same : lower column.name = lower name) :
    previousColumn table false index name = some column := by
  obtain ⟨position, at_⟩ := List.mem_iff_getElem?.mp here
  have candidate : (column.name, position) ∈ (table.columns.map (·.name)).zipIdx.filter fun entry => ciEquals entry.1 name := by
    apply List.mem_filter.mpr
    refine ⟨List.mem_zipIdx_iff_getElem?.mpr ?_, ciEquals_iff.mpr same⟩
    rw [List.getElem?_map, at_]
    rfl
  cases found : lastIndex (table.columns.map (·.name)) name with
  | none =>
      unfold lastIndex at found
      rw [Option.map_eq_none_iff, List.getLast?_eq_none_iff] at found
      rw [found] at candidate
      cases candidate
  | some last =>
      obtain ⟨other, there, named⟩ := lastIndex_spec found
      rw [List.getElem?_map] at there
      obtain ⟨column', at', rfl⟩ := Option.map_eq_some_iff.mp there
      have one : column' = column :=
        List.inj_on_of_nodup_map distinct (List.mem_of_getElem? at') here (named.trans same.symm)
      simp only [previousColumn, Bool.false_eq_true, if_false, Option.bind_eq_bind, found, Option.bind_some]
      rw [at', one]

/-- glue_replace_columns of a csv table, by position. -/
theorem replaceColumns_followsAt {given : Option StringStruct} {comments : Option (Option StringStruct)}
    {keepComments : Bool} {update : TableUpdate}
    (replaced : replaceColumns typeName parseType table given comments keepComments = .ok update) (csv : IsCsv table) :
    ∃ columns, update = .columns columns ∧ FollowsAt table.columns columns := by
  obtain ⟨fields, fileFormat, columns, commented, rfl, passed⟩ := replaceColumns_passed typeName parseType replaced
  refine ⟨commented, rfl, ?_⟩
  rw [IsCsv, passed.format] at csv
  cases csv
  intro index column here
  have inside := (List.getElem?_eq_some_iff.mp here).1
  have counted := passed.counted rfl
  have field : fields.fields.zipIdx[index]? = some (fields.fields[index], index) := by
    rw [List.getElem?_zipIdx, List.getElem?_eq_getElem (by omega)]
    simp
  have made := getElem?_mapM passed.mapped index
  rw [field] at made
  obtain ⟨column', there, done⟩ := Option.map_eq_some_iff.mp made
  obtain ⟨column'', last, -, sameType⟩ := getElem?_applyComments passed.applied there
  refine ⟨column'', last, ?_⟩
  rw [sameType]
  apply replaceColumn_follows _ done.symm
  simpa [previousColumn] using here

/-- glue_replace_columns of other tables, where it keeps the names. -/
theorem replaceColumns_followsNamed {given : Option StringStruct} {comments : Option (Option StringStruct)}
    {keepComments : Bool} {update : TableUpdate}
    (replaced : replaceColumns typeName parseType table given comments keepComments = .ok update) (notCsv : ¬IsCsv table)
    (distinct : (names table.columns).Nodup) :
    ∃ columns, update = .columns columns ∧ (names table.columns ⊆ names columns → FollowsNamed table.columns columns) := by
  obtain ⟨fields, fileFormat, columns, commented, rfl, passed⟩ := replaceColumns_passed typeName parseType replaced
  refine ⟨commented, rfl, ?_⟩
  intro kept column here
  have byName : decide (fileFormat = .csv) = false := by
    apply decide_eq_false
    rintro rfl
    exact notCsv passed.format
  have named := kept (mem_names.mpr ⟨column, here, rfl⟩)
  rw [applyComments_names passed.applied] at named
  obtain ⟨column', there, same⟩ := mem_names.mp named
  obtain ⟨index, at_⟩ := List.mem_iff_getElem?.mp there
  obtain ⟨entry, member, done⟩ := mem_of_mapM passed.mapped there
  obtain ⟨column'', last, lastName, lastType⟩ := getElem?_applyComments passed.applied at_
  refine ⟨column'', List.mem_of_getElem? last, ?_, ?_⟩
  · rw [lastName, same]
  · rw [lastType]
    rw [byName] at done
    have spelled := (replaceColumn_spec done).1
    exact replaceColumn_follows (exists_previousColumn distinct here (same.symm.trans spelled)) done

end Replaced

/-- `AddColumn` refuses a second column of a name. -/
theorem distinct_of_addColumns {taken : List Text} {columns : List GlueColumn}
    (added : GlueTableSet.addColumns taken columns = .ok ()) :
    (names columns).Nodup ∧ ∀ key ∈ names columns, key ∉ taken.map lower := by
  induction columns generalizing taken with
  | nil => exact ⟨List.nodup_nil, fun key member => absurd member List.not_mem_nil⟩
  | cons column columns ih =>
      simp only [GlueTableSet.addColumns, bind_eq_ok, guard_throw_eq_ok] at added
      obtain ⟨_, _, fresh, rest⟩ := added
      obtain ⟨distinct, apart⟩ := ih rest
      have notTaken : lower column.name ∉ taken.map lower := by
        intro member
        obtain ⟨other, there, same⟩ := List.mem_map.mp member
        exact fresh (List.any_eq_true.mpr ⟨other, there, ciEquals_iff.mpr same.symm⟩)
      constructor
      · refine List.nodup_cons.mpr ⟨?_, distinct⟩
        intro member
        exact apart _ member List.mem_cons_self
      · intro key member
        rcases List.mem_cons.mp member with rfl | later
        · exact notTaken
        · intro taken'
          exact apart key later (List.mem_cons_of_mem _ taken')

section Runs

variable (typeName : LogicalType → Text) (parseType : Text → Except Exception LogicalType)

/-- The statements that add, rename or retype columns. -/
def ChangesColumns : ColumnStatement → Prop
  | .alter _ (.addColumn _ _) | .alter _ (.renameColumn _ _) | .alter _ (.alterColumnType _ _ _ _ _) => True
  | .replaceColumns _ _ _ => True
  | _ => False

/-- Such a statement that succeeds and drops no column; in a csv table the positions are
the columns. -/
def ChangeStep (table : GlueTableInfo) (statement : ColumnStatement) (table' : GlueTableInfo) : Prop :=
  Step typeName parseType table statement table' ∧ ChangesColumns statement ∧
    (¬IsCsv table → (names table.columns).Subperm (names table'.columns))

variable {typeName parseType} {table table' : GlueTableInfo}

theorem isCsv_iff (same : table'.serdeLibrary = table.serdeLibrary) : IsCsv table' ↔ IsCsv table :=
  ⟨isCsv_congr same.symm, isCsv_congr same⟩

theorem StaysReadable.refl (table : GlueTableInfo) : StaysReadable table table := by
  constructor
  · rfl
  · exact fun _ index column here => ⟨column, here, Follows.refl _⟩
  · exact fun _ distinct => ⟨distinct, fun column here => ⟨column, here, rfl, Follows.refl _⟩⟩

theorem StaysReadable.trans {a b c : GlueTableInfo} (first : StaysReadable a b) (second : StaysReadable b c) :
    StaysReadable a c := by
  have csv := isCsv_iff first.serdeLibrary
  constructor
  · exact second.serdeLibrary.trans first.serdeLibrary
  · exact fun here => (first.positions here).trans (second.positions (csv.mpr here))
  · intro notCsv distinct
    obtain ⟨distinctBetween, later⟩ := second.names (mt csv.mp notCsv) distinct
    obtain ⟨distinctBefore, sooner⟩ := first.names notCsv distinctBetween
    exact ⟨distinctBefore, sooner.trans later⟩

/-- What an update of the columns does to them. -/
theorem performed_follows {statement : ColumnStatement} {update : TableUpdate}
    (done : perform typeName parseType table statement = .ok (some update)) (changes : ChangesColumns statement) :
    ∃ columns, update = .columns columns ∧ (IsCsv table → FollowsAt table.columns columns) ∧
      (¬IsCsv table → (names table.columns).Nodup → names table.columns ⊆ names columns →
        FollowsNamed table.columns columns) := by
  cases statement with
  | create => exact absurd changes id
  | replaceColumns given comments keepComments =>
      simp only [perform, bind_eq_ok, pure_eq_ok, Option.some_inj, exists_eq_right] at done
      by_cases csv : IsCsv table
      · obtain ⟨columns, rfl, follows⟩ := replaceColumns_followsAt done csv
        exact ⟨columns, rfl, fun _ => follows, fun notCsv => absurd csv notCsv⟩
      · obtain ⟨_, _, _, columns, rfl, -⟩ := replaceColumns_passed typeName parseType done
        refine ⟨columns, rfl, fun here => absurd here csv, ?_⟩
        intro _ distinct kept
        obtain ⟨_, same, follows⟩ := replaceColumns_followsNamed done csv distinct
        cases same
        exact follows kept
  | alter tableName info =>
      cases alter_made done with
      | setColumnComment => exact absurd changes id
      | setComment => exact absurd changes id
      | setTableOptions => exact absurd changes id
      | resetTableOptions => exact absurd changes id
      | removeColumn => exact absurd changes id
      | addColumn added =>
          obtain ⟨-, type, rfl⟩ := addColumn_passed added
          refine ⟨_, rfl, fun _ => followsAt_append _ _, fun _ _ _ => (followsAt_append _ _).named ?_⟩
          intro index key here
          rw [names_append, List.getElem?_append_left (List.getElem?_eq_some_iff.mp here).1]
          exact here
      | renameColumn renamed =>
          obtain ⟨_, _, _, _, csv, _, rfl⟩ := renameColumn_passed renamed
          exact ⟨_, rfl, fun _ => followsAt_modifyFirst fun _ _ => Follows.refl _, fun notCsv => absurd csv notCsv⟩
      | @alterColumnType name _ _ _ _ _ altered =>
          obtain ⟨column, source, type, found, read, allowed, printed, rfl⟩ := alterColumnType_passed altered
          have follows : FollowsAt table.columns (modifyFirst name (fun column => { column with type := type }) table.columns) := by
            apply followsAt_modifyFirst
            intro column' found'
            rw [found] at found'
            cases found'
            exact follows_stored read allowed printed
          refine ⟨_, rfl, fun _ => follows, fun _ _ _ => follows.named ?_⟩
          have same : names (modifyFirst name (fun column => { column with type := type }) table.columns) =
              names table.columns := modifyFirst_map (fun column => lower column.name) fun _ => rfl
          intro index key here
          rw [same]
          exact here

theorem step_staysReadable {statement : ColumnStatement} (step : ChangeStep typeName parseType table statement table') :
    StaysReadable table table' := by
  obtain ⟨taken, changes, kept⟩ := step
  cases taken with
  | unchanged => exact StaysReadable.refl table
  | updated done versionId =>
      obtain ⟨columns, rfl, positions, named⟩ := performed_follows done changes
      constructor
      · rfl
      · exact positions
      · intro notCsv distinct
        obtain ⟨inner, perm, sublist⟩ := kept notCsv
        have distinctBefore := perm.nodup_iff.mp (distinct.sublist sublist)
        exact ⟨distinctBefore, named notCsv distinctBefore (kept notCsv).subset⟩

/-- Through any accepted changes. -/
theorem run_staysReadable {statements : List ColumnStatement}
    (run : Run (ChangeStep typeName parseType) table statements table') : StaysReadable table table' := by
  induction run with
  | nil => exact StaysReadable.refl _
  | cons first _ ih => exact (step_staysReadable first).trans ih

/-- An entry has columns of distinct names, each with the type that is read. -/
theorem fromTableInfo_ok {entry : GlueTable} (built : GlueTable.fromTableInfo table = .ok entry) :
    entry.tableInfo = table ∧ (names table.columns).Nodup ∧
      ∀ (index : ℕ) (column : GlueColumn), table.columns[index]? = some column →
        ∃ type, toLogicalType column.type = .ok type ∧ entry.columns[index]? = some (column.name, type) := by
  simp only [GlueTable.fromTableInfo, bind_eq_ok, pure_eq_ok, exists_unit_ok] at built
  obtain ⟨added, columns, mapped, rfl⟩ := built
  refine ⟨rfl, ?_, ?_⟩
  · have distinct := distinct_of_addColumns added
    rw [names_append] at distinct
    exact distinct.1.of_append_left
  · intro index column here
    have made := getElem?_mapM mapped index
    rw [List.getElem?_append_left (List.getElem?_eq_some_iff.mp here).1, here] at made
    obtain ⟨pair, there, done⟩ := Option.map_eq_some_iff.mp made
    obtain ⟨type, read, same⟩ := bind_eq_ok.mp done.symm
    cases same
    exact ⟨type, read, there⟩

/-- The columns a scan of an entry is planned with. -/
theorem getScanFunction_columns {db : DuckDB} {catalogName : Text} {entry : GlueTable} {scan : HiveScanInfo}
    (bound : entry.getScanFunction db catalogName = .ok scan) : scan.table = some entry ∧
      entry.tableInfo.getFileFormat = .ok scan.fileFormat ∧ scan.names = entry.columns.map (·.1) ∧
      scan.types = entry.columns.map (·.2) := by
  unfold GlueTable.getScanFunction at bound
  dsimp only at bound
  split_ifs at bound
  obtain ⟨isEntry, -, readsLike, names, types⟩ := HiveScanInfo.getHiveScanFunction_readsLike bound
  exact ⟨isEntry, readsLike.fileFormat, names, types⟩

/-- The column that is matched with one the partition declares follows it. -/
theorem partitionColumn_follows {scan : HiveScanInfo} {partition : GluePartitionInfo} {index : ℕ}
    {declared column : GlueColumn} (stays : StaysReadable table table') (format : table'.getFileFormat = .ok scan.fileFormat)
    (distinct : (names table'.columns).Nodup) (declares : partition.partitionColumns = table.columns)
    (here : table'.columns[index]? = some column)
    (matched : scan.partitionColumn partition index column.name = some declared) : Follows declared.type column.type := by
  unfold HiveScanInfo.partitionColumn at matched
  rw [declares] at matched
  by_cases csv : scan.fileFormat = .csv
  · rw [if_pos csv] at matched
    rw [csv] at format
    obtain ⟨column', there, follows⟩ := stays.positions ((isCsv_iff stays.serdeLibrary).mp format) index declared matched
    rw [here] at there
    cases there
    exact follows
  · rw [if_neg csv] at matched
    have notCsv : ¬IsCsv table := by
      intro isCsv
      have isCsv' : IsCsv table' := (isCsv_iff stays.serdeLibrary).mpr isCsv
      rw [IsCsv, format] at isCsv'
      exact csv (Except.ok.inj isCsv')
    obtain ⟨-, named⟩ := stays.names notCsv distinct
    obtain ⟨column', there, same, follows⟩ := named declared (List.mem_of_find?_eq_some matched)
    have spelled : lower declared.name = lower column.name := ciEquals_iff.mp (List.find?_some matched :)
    have one : column' = column :=
      List.inj_on_of_nodup_map distinct there (List.mem_of_getElem? here) (same.trans spelled)
    exact one ▸ follows

/-- A partition with the columns the table had at some point is read after any accepted
changes that drop none. -/
theorem checkPartitionColumns_ok {db : DuckDB} {catalogName : Text} {entry : GlueTable} {scan : HiveScanInfo}
    {partition : GluePartitionInfo} {statements : List ColumnStatement} {Value : Type} (casts : ValueCasts Value)
    (changes : Run (ChangeStep typeName parseType) table statements table')
    (declares : partition.partitionColumns = table.columns) (built : GlueTable.fromTableInfo table' = .ok entry)
    (bound : entry.getScanFunction db catalogName = .ok scan) {columnIndexes : List ℕ}
    (dataColumns : ∀ index ∈ columnIndexes, index < table'.columns.length) :
    scan.checkPartitionColumns casts partition columnIndexes = .ok () := by
  obtain ⟨isEntry, format, isNames, isTypes⟩ := getScanFunction_columns bound
  obtain ⟨info, distinct, columns⟩ := fromTableInfo_ok built
  rw [info] at format
  have stays := run_staysReadable changes
  unfold HiveScanInfo.checkPartitionColumns
  rw [isEntry]
  dsimp only
  split_ifs with none
  · rfl
  apply forM_eq_ok.mpr
  intro index member
  have inside := dataColumns index member
  obtain ⟨type, read, there⟩ := columns index table'.columns[index] (List.getElem?_eq_getElem inside)
  have isName : scan.names.getD index [] = table'.columns[index].name := by
    rw [isNames, List.getD_eq_getElem?_getD, List.getElem?_map, there]
    rfl
  have isType : scan.types.getD index .varchar = type := by
    rw [isTypes, List.getD_eq_getElem?_getD, List.getElem?_map, there]
    rfl
  unfold HiveScanInfo.checkPartitionColumn
  rw [isName, isType]
  dsimp only
  cases matched : scan.partitionColumn partition index table'.columns[index].name with
  | none => rfl
  | some declared =>
      have follows := partitionColumn_follows stays format distinct declares (List.getElem?_eq_getElem inside) matched
      obtain ⟨earlier, readEarlier, widens⟩ := follows type read
      cases lowered : toLogicalType (lower declared.type) with
      | error => simp only [lowered]
      | ok partitionType =>
          have readable := ((widens_of_lower lowered readEarlier).trans widens).canRead casts
          simp only [lowered, readable, if_true]

end Runs

section Sales

/-- A parquet table partitioned by day. -/
def salesTable (columns : List GlueColumn) (versionId : Text) : GlueTableInfo where
  name := "sales"
  schemaName := "db"
  location := "s3://bucket/sales"
  columns := columns
  partitionKeys := [{ name := "day", type := "string" }]
  inputFormat := "org.apache.hadoop.hive.ql.io.parquet.MapredParquetInputFormat"
  serdeLibrary := "org.apache.hadoop.hive.ql.io.parquet.serde.ParquetHiveSerDe"
  versionId := versionId

def plainCasts : ValueCasts Text where
  ofText := id
  tryCastAs text _ := some text
  typeName _ := []
  implicitCastCost source target := if source.same target then 0 else -1

/-- The partition of a day declares the id as an int. -/
def dayPartition : GluePartitionInfo where
  values := ["2024-01-01"]
  location := "s3://bucket/sales/day=2024-01-01"
  partitionColumns := [{ name := "id", type := "int" }]

/-- `ALTER TABLE sales ALTER id TYPE BIGINT`, then `ADD COLUMN note VARCHAR`. -/
theorem checkPartitionColumns_sales : ∃ entry scan,
    GlueTable.fromTableInfo (salesTable [{ name := "id", type := "bigint" }, { name := "note", type := "string" }] "2") =
      .ok entry ∧ entry.getScanFunction HiveScanInfo.noNumbers "glue" = .ok scan ∧
      scan.checkPartitionColumns plainCasts dayPartition [0, 1] = .ok () := by
  let first := salesTable [{ name := "id", type := "int" }] "0"
  let second := salesTable [{ name := "id", type := "bigint" }] "1"
  have retyped : perform (fun _ => []) (fun _ => .ok .varchar) first
      (.alter "sales" (.alterColumnType "id" [] .bigint [] true)) = .ok (some (.columns second.columns)) := rfl
  have added : perform (fun _ => []) (fun _ => .ok .varchar) second
      (.alter "sales" (.addColumn { name := "note", type := .varchar } false)) =
        .ok (some (.columns (second.columns ++ [{ name := "note", type := "string" }]))) := rfl
  have retypes : ChangeStep (fun _ => []) (fun _ => .ok .varchar) first _ second :=
    ⟨.updated retyped "1", trivial, fun _ => List.Subperm.refl _⟩
  have adds : ChangeStep (fun _ => []) (fun _ => .ok .varchar) second _
      (salesTable [{ name := "id", type := "bigint" }, { name := "note", type := "string" }] "2") :=
    ⟨.updated added "2", trivial, fun _ => (List.sublist_append_left _ _).subperm⟩
  refine ⟨_, _, rfl, rfl, ?_⟩
  exact @checkPartitionColumns_ok _ _ _ _ HiveScanInfo.noNumbers _ _ _ _ _ _ plainCasts (.cons retypes (.single adds))
    rfl rfl rfl _ (by decide)

end Sales

end ChangedColumns

end DuckGlue
