import DuckGlue.Catalog.GluePartitionFunctions
import DuckGlue.Lib.Fallible
import DuckGlue.Lib.Runs

/-! # The column set of a table

The statements that change the columns of a Hive table keep their names apart, keep
one of them, and keep those the table is bucketed or sorted by. In a csv table, which
is read by position, glue_replace_columns can still give the name of a bucket column to
another position.
-/

namespace DuckGlue

open StringUtil GlueSchemaEntry GluePartitionFunctions Fallible

namespace ColumnSet

/-- The names, as they are compared. -/
def names (columns : List GlueColumn) : List Text := columns.map fun column => lower column.name

/-- The columns a table is bucketed or sorted by. -/
def clusteringColumns (table : GlueTableInfo) : List Text :=
  table.bucketColumns ++ table.sortColumns.map (·.name)

/-- The table is read by position. -/
def IsCsv (table : GlueTableInfo) : Prop := table.getFileFormat = .ok .csv

structure WellFormed (table : GlueTableInfo) : Prop where
  distinct : (names (table.columns ++ table.partitionKeys)).Nodup
  someColumn : table.columns ≠ []

/-- What a version of a table keeps of an earlier one. -/
structure Keeps (table table' : GlueTableInfo) : Prop where
  partitionKeys : table'.partitionKeys.map (fun key => (key.name, key.type)) =
    table.partitionKeys.map fun key => (key.name, key.type)
  bucketColumns : table'.bucketColumns = table.bucketColumns
  sortColumns : table'.sortColumns = table.sortColumns
  serdeLibrary : table'.serdeLibrary = table.serdeLibrary
  positions : IsCsv table → table.columns.length ≤ table'.columns.length
  clustering : ∀ name ∈ clusteringColumns table, lower name ∈ names table.columns → lower name ∈ names table'.columns
  clusteringAt : IsCsv table → ∀ name ∈ clusteringColumns table, ∀ index : Nat,
    (names table.columns)[index]? = some (lower name) → (names table'.columns)[index]? = some (lower name)

/-- What the data columns of an update keep of the definition they replace. -/
structure KeepsColumns (table : GlueTableInfo) (columns : List GlueColumn) : Prop where
  distinct : (names columns).Nodup
  apart : ∀ name ∈ names columns, name ∉ names table.partitionKeys
  someColumn : columns ≠ []
  positions : IsCsv table → table.columns.length ≤ columns.length
  clustering : ∀ name ∈ clusteringColumns table, lower name ∈ names table.columns → lower name ∈ names columns
  clusteringAt : IsCsv table → ∀ name ∈ clusteringColumns table, ∀ index : Nat,
    (names table.columns)[index]? = some (lower name) → (names columns)[index]? = some (lower name)

/-- The same of any update. -/
def UpdateKeeps (table : GlueTableInfo) : TableUpdate → Prop
  | .columns columns => KeepsColumns table columns
  | .partitionKeys keys =>
      keys.map (fun key => (key.name, key.type)) = table.partitionKeys.map fun key => (key.name, key.type)
  | .description _ | .location _ | .parameters _ _ => True

section Names

variable {columns : List GlueColumn} {name newName : Text} {change : GlueColumn → GlueColumn}

theorem mem_names {key : Text} : key ∈ names columns ↔ ∃ column ∈ columns, lower column.name = key := List.mem_map

theorem names_append {more : List GlueColumn} : names (columns ++ more) = names columns ++ names more := List.map_append

theorem names_eq_nil : names columns = [] ↔ columns = [] := List.map_eq_nil_iff

theorem findColumn_isSome : (findColumn columns name).isSome = true ↔ lower name ∈ names columns := by
  simp [findColumn, mem_names]

theorem any_ciEquals : columns.any (ciEquals ·.name name) = true ↔ lower name ∈ names columns := by
  simp [mem_names]

/-- What a change leaves of every column it leaves of the list. -/
theorem modifyFirst_map {β : Type} (f : GlueColumn → β) (kept : ∀ column, f (change column) = f column) :
    (modifyFirst name change columns).map f = columns.map f := by
  induction columns with
  | nil => rfl
  | cons column columns ih =>
      by_cases here : ciEquals column.name name = true
      · simp [modifyFirst, here, kept]
      · simp only [modifyFirst, here]
        exact congrArg (f column :: ·) ih

theorem names_modify {index : Nat} (kept : ∀ column, (change column).name = column.name) :
    names (columns.modify index change) = names columns := by
  apply List.ext_getElem?
  intro position
  unfold names
  rw [List.getElem?_map, List.getElem?_map, List.getElem?_modify]
  by_cases here : index = position
  · simp [here, Function.comp_def, kept]
  · simp [here]

theorem names_rename (distinct : (names columns).Nodup) :
    names (modifyFirst name (fun column => { column with name := newName }) columns) =
      (names columns).map fun key => if key = lower name then lower newName else key := by
  induction columns with
  | nil => rfl
  | cons column columns ih =>
      obtain ⟨apart, distinct⟩ := List.nodup_cons.mp distinct
      by_cases here : lower column.name = lower name
      · have others : (names columns).map (fun key => if key = lower name then lower newName else key) = names columns := by
          conv_rhs => rw [← List.map_id (names columns)]
          apply List.map_congr_left
          intro key member
          have differs : key ≠ lower name := by
            intro same
            rw [same, ← here] at member
            exact apart member
          simp [differs]
        have first : modifyFirst name (fun column => { column with name := newName }) (column :: columns) =
            { column with name := newName } :: columns := by simp [modifyFirst, here]
        rw [first]
        simp only [names, List.map_cons, here, if_true]
        exact congrArg (lower newName :: ·) others.symm
      · have later : modifyFirst name (fun column => { column with name := newName }) (column :: columns) =
            column :: modifyFirst name (fun column => { column with name := newName }) columns := by
          simp [modifyFirst, here]
        rw [later]
        simp only [names, List.map_cons, here, if_false]
        exact congrArg (lower column.name :: ·) (ih distinct)

theorem names_filter : names (columns.filter fun column => !ciEquals column.name name) =
    (names columns).filter (· ≠ lower name) := by
  unfold names
  rw [List.filter_map]
  congr 1
  apply List.filter_congr
  intro column _
  simp [ciEquals]

end Names

section Updates

variable {table : GlueTableInfo} {columns : List GlueColumn}

theorem WellFormed.distinctColumns (wellFormed : WellFormed table) : (names table.columns).Nodup := by
  have distinct := wellFormed.distinct
  rw [names_append] at distinct
  exact distinct.of_append_left

theorem WellFormed.apart (wellFormed : WellFormed table) :
    ∀ name ∈ names table.columns, name ∉ names table.partitionKeys := by
  have distinct := wellFormed.distinct
  rw [names_append] at distinct
  intro name member key
  exact List.disjoint_of_nodup_append distinct member key

/-- An update that leaves the names of the columns. -/
theorem keepsColumns_of_names (wellFormed : WellFormed table) (same : names columns = names table.columns) :
    KeepsColumns table columns := by
  have lengths := congrArg List.length same
  simp only [names, List.length_map] at lengths
  constructor
  · rw [same]
    exact wellFormed.distinctColumns
  · rw [same]
    exact wellFormed.apart
  · rw [← names_eq_nil.ne, same, names_eq_nil.ne]
    exact wellFormed.someColumn
  · intro _
    exact lengths.ge
  · intro name _ here
    rwa [same]
  · intro _ name _ index here
    rwa [same]

theorem checkNotClustering_ok {tableName name action : Text}
    (passed : checkNotClustering table tableName name action = .ok ()) :
    ∀ clustering ∈ clusteringColumns table, lower clustering ≠ lower name := by
  simp only [checkNotClustering, guard_throw_eq_ok, stop_throw_eq_ok, pure_eq_ok, and_true] at passed
  obtain ⟨bucket, sorted⟩ := passed
  intro clustering member same
  rcases List.mem_append.mp member with isBucket | isSort
  · exact bucket (List.any_eq_true.mpr ⟨clustering, isBucket, ciEquals_iff.mpr same⟩)
  · obtain ⟨column, there, rfl⟩ := List.mem_map.mp isSort
    exact sorted (List.any_eq_true.mpr ⟨column, there, ciEquals_iff.mpr same⟩)

variable {typeName : LogicalType → Text} {tableName : Text} {update : TableUpdate}

theorem setColumnComment_keeps (wellFormed : WellFormed table) {name : Text} {comment : Option Text}
    (set : setColumnComment table name comment = .ok update) : UpdateKeeps table update := by
  unfold setColumnComment at set
  dsimp only at set
  split_ifs at set with key column
  · cases set
    exact modifyFirst_map (fun column => (column.name, column.type)) fun _ => rfl
  · cases set
    exact keepsColumns_of_names wellFormed (modifyFirst_map (fun column => lower column.name) fun _ => rfl)

theorem addColumn_keeps (wellFormed : WellFormed table) {newColumn : ColumnDefinition} {ifNotExists : Bool}
    (added : addColumn typeName table tableName newColumn ifNotExists = .ok (some update)) :
    UpdateKeeps table update := by
  obtain ⟨found, type, rfl⟩ := addColumn_passed added
  have fresh : lower newColumn.name ∉ names table.columns ∧ lower newColumn.name ∉ names table.partitionKeys := by
    simpa [findColumn_isSome] using found
  have appended : names (table.columns ++ [{ name := newColumn.name, type : GlueColumn }]) =
      names table.columns ++ [lower newColumn.name] := names_append
  constructor
  · rw [appended]
    exact List.Nodup.append wellFormed.distinctColumns (List.nodup_singleton _) (by simpa using fresh.1)
  · rw [appended]
    intro name member
    rcases List.mem_append.mp member with there | new
    · exact wellFormed.apart name there
    · rw [List.mem_singleton.mp new]
      exact fresh.2
  · simp
  · simp
  · intro name _ here
    rw [appended]
    exact List.mem_append_left _ here
  · intro _ name _ index here
    rw [appended]
    exact List.getElem?_append_left (List.getElem?_eq_some_iff.mp here).1 ▸ here

/-- A column dropped is none of the last, of a csv table, or that the table is clustered by. -/
theorem removeColumn_keeps (wellFormed : WellFormed table) {name : Text} {ifExists : Bool}
    (removed : removeColumn table tableName name ifExists = .ok (some update)) : UpdateKeeps table update := by
  obtain ⟨there, unclustered, ⟨format, decided, notCsv⟩, several, rfl⟩ := removeColumn_passed removed
  have found : lower name ∈ names table.columns := findColumn_isSome.mp there
  have clusteringKept := checkNotClustering_ok unclustered
  have csv : ¬ IsCsv table := by
    intro csv
    rw [IsCsv, decided] at csv
    cases csv
    exact notCsv rfl
  constructor
  · rw [names_filter]
    exact wellFormed.distinctColumns.filter _
  · intro other member
    rw [names_filter] at member
    exact wellFormed.apart other (List.mem_of_mem_filter member)
  · intro none
    apply several
    have all : ∀ other ∈ names table.columns, other = lower name := by
      have gone : (names table.columns).filter (· ≠ lower name) = [] := by rw [← names_filter, none]; rfl
      simpa using List.filter_eq_nil_iff.mp gone
    have one := List.eq_replicate_of_mem all
    have single : (names table.columns).length ≤ 1 := by
      have distinct := wellFormed.distinctColumns
      rw [one] at distinct
      exact List.nodup_replicate.mp distinct
    have some : 0 < (names table.columns).length := List.length_pos_of_mem found
    rw [names, List.length_map] at single some
    omega
  · exact fun holds => absurd holds csv
  · intro clustering member here
    rw [names_filter, List.mem_filter]
    exact ⟨here, by simpa using clusteringKept clustering member⟩
  · exact fun holds => absurd holds csv

/-- Where the first column of the new name is none or the renamed one, no other has it. -/
theorem rename_fresh {name newName : Text}
    (free : ∀ column ∈ columns, ciEquals column.name newName = true →
      columns.findIdx? (ciEquals ·.name newName) = columns.findIdx? (ciEquals ·.name name)) :
    ∀ key ∈ names columns, key = lower newName → key = lower name := by
  intro key member new
  obtain ⟨column, here, rfl⟩ := mem_names.mp member
  have same := free column here (ciEquals_iff.mpr new)
  cases found : columns.findIdx? (ciEquals ·.name newName) with
  | none =>
      have none := List.findIdx?_eq_none_iff.mp found column here
      rw [ciEquals_iff.mpr new] at none
      cases none
  | some index =>
      obtain ⟨_, isNew, _⟩ := List.findIdx?_eq_some_iff_getElem.mp found
      obtain ⟨_, isOld, _⟩ := List.findIdx?_eq_some_iff_getElem.mp (same.symm.trans found)
      rw [new, ← ciEquals_iff.mp isNew, ciEquals_iff.mp isOld]

/-- A rename in a csv table goes to a name no other column has. -/
theorem renameColumn_keeps (wellFormed : WellFormed table) {name newName : Text}
    (renamed : renameColumn table tableName name newName = .ok update) : UpdateKeeps table update := by
  obtain ⟨column, found, free, notKey, -, unclustered, rfl⟩ := renameColumn_passed renamed
  have old : lower column.name = lower name := ciEquals_iff.mp (List.find?_some found :)
  have clusteringKept := checkNotClustering_ok unclustered
  rw [old] at clusteringKept
  have notKey : lower newName ∉ names table.partitionKeys := by rw [← findColumn_isSome, notKey]; exact Bool.false_ne_true
  have fresh := rename_fresh free
  let renames := fun key : Text => if key = lower name then lower newName else key
  have after : names (modifyFirst name (fun column => { column with name := newName }) table.columns) =
      (names table.columns).map renames := names_rename wellFormed.distinctColumns
  have kept : ∀ clustering ∈ clusteringColumns table, renames (lower clustering) = lower clustering := by
    intro clustering member
    exact if_neg (clusteringKept clustering member)
  constructor
  · rw [after]
    apply List.Nodup.map_on _ wellFormed.distinctColumns
    intro a aHere b bHere same
    by_cases aOld : a = lower name
    · by_cases bOld : b = lower name
      · rw [aOld, bOld]
      · simp only [renames, aOld, bOld, if_true, if_false] at same
        exact absurd (fresh b bHere same.symm) bOld
    · by_cases bOld : b = lower name
      · simp only [renames, aOld, bOld, if_true, if_false] at same
        exact absurd (fresh a aHere same) aOld
      · simpa only [renames, aOld, bOld, if_false] using same
  · rw [after]
    intro key member
    obtain ⟨before, here, rfl⟩ := List.mem_map.mp member
    by_cases isOld : before = lower name
    · simpa only [renames, isOld, if_true] using notKey
    · simpa only [renames, isOld, if_false] using wellFormed.apart before here
  · rw [← names_eq_nil.ne, after, List.map_eq_nil_iff.ne, names_eq_nil.ne]
    exact wellFormed.someColumn
  · intro _
    have lengths := congrArg List.length after
    simp only [names, List.length_map] at lengths
    exact lengths.ge
  · intro clustering member here
    rw [after]
    exact List.mem_map.mpr ⟨_, here, kept clustering member⟩
  · intro _ clustering member index here
    rw [after, List.getElem?_map, here, Option.map_some, kept clustering member]

theorem alterColumnType_keeps (wellFormed : WellFormed table) {name : Text} {path : List Text} {targetType : LogicalType}
    {collation : Text} {plainCast : Bool}
    (altered : alterColumnType typeName table tableName name path targetType collation plainCast = .ok update) :
    UpdateKeeps table update := by
  obtain ⟨_, _, type, _, _, _, _, rfl⟩ := alterColumnType_passed altered
  exact keepsColumns_of_names wellFormed (modifyFirst_map (fun column => lower column.name) fun _ => rfl)

theorem alter_keeps (wellFormed : WellFormed table) {bound : GlueTableInfo} {info : AlterInfo}
    (altered : alter typeName tableName bound table info = .ok (some update)) : UpdateKeeps table update := by
  cases alter_made altered with
  | setColumnComment set => exact setColumnComment_keeps wellFormed set
  | setComment => trivial
  | setTableOptions set =>
      simp only [bind_eq_ok, pure_eq_ok, setTableProperties] at set
      obtain ⟨_, _, _, _, rfl⟩ := set
      trivial
  | resetTableOptions reset =>
      simp only [bind_eq_ok, pure_eq_ok, resetTableProperties] at reset
      obtain ⟨_, _, rfl⟩ := reset
      trivial
  | addColumn added => exact addColumn_keeps wellFormed added
  | removeColumn removed => exact removeColumn_keeps wellFormed removed
  | renameColumn renamed => exact renameColumn_keeps wellFormed renamed
  | alterColumnType altered => exact alterColumnType_keeps wellFormed altered

/-- The columns glue_replace_columns gives keep the names the table is clustered by at
their positions, where it is read by position. -/
def KeepsClustering (table : GlueTableInfo) (columns : Option StringStruct) : Prop :=
  IsCsv table → ∀ fields ∈ columns, ∀ name ∈ clusteringColumns table, ∀ index : Nat,
    (names table.columns)[index]? = some (lower name) → (fields.fields.map (lower ·.1))[index]? = some (lower name)

theorem lastIndex_spec {given : List Text} {name : Text} {index : Nat} (found : lastIndex given name = some index) :
    ∃ other, given[index]? = some other ∧ lower other = lower name := by
  unfold lastIndex at found
  obtain ⟨⟨other, index⟩, last, rfl⟩ := Option.map_eq_some_iff.mp found
  obtain ⟨member, same⟩ := List.mem_filter.mp (List.mem_of_getLast? last)
  exact ⟨other, List.mem_zipIdx_iff_getElem?.mp member, ciEquals_iff.mp same⟩

theorem previousColumn_name {index : Nat} {name : Text} {previous : GlueColumn}
    (matched : previousColumn table false index name = some previous) : lower previous.name = lower name := by
  simp only [previousColumn, Bool.false_eq_true, if_false, Option.bind_eq_bind] at matched
  obtain ⟨index, found, here⟩ := Option.bind_eq_some_iff.mp matched
  obtain ⟨other, there, same⟩ := lastIndex_spec found
  rw [List.getElem?_map, here] at there
  cases there
  exact same

theorem applyComments_names {comments : List (Text × Option Text)} {commented : List GlueColumn}
    (applied : applyComments columns comments = .ok commented) : names commented = names columns := by
  induction comments generalizing columns with
  | nil =>
      cases applied
      rfl
  | cons comment comments ih =>
      unfold applyComments at applied
      cases found : lastIndex (columns.map (·.name)) comment.1 with
      | none => simp only [found, reduceCtorEq] at applied
      | some index =>
          simp only [found] at applied
          rw [ih applied]
          exact names_modify fun _ => rfl

variable {parseType : Text → Except Exception LogicalType}

/-- A column matched by name keeps its stored name, which is the given one in some case. -/
theorem replaceColumn_spec {byPosition keepComments : Bool} {index : Nat} {field : Text × Option Text}
    {column : GlueColumn}
    (replaced : replaceColumn typeName parseType table byPosition keepComments index field = .ok column) :
    lower column.name = lower field.1 ∧ lower column.name ∉ names table.partitionKeys := by
  unfold replaceColumn at replaced
  cases given : field.2 with
  | none => simp only [given, throw_ne_ok] at replaced
  | some given' =>
      cases matched : previousColumn table byPosition index field.1 with
      | none =>
          simp only [given, matched, bind_eq_ok, guard_throw_eq_ok, pure_eq_ok] at replaced
          obtain ⟨_, _, _, _, _, _, _, rfl, notKey, rfl⟩ := replaced
          exact ⟨rfl, by rwa [any_ciEquals] at notKey⟩
      | some previous =>
          simp only [given, matched, bind_eq_ok, guard_throw_eq_ok, pure_eq_ok] at replaced
          obtain ⟨_, _, _, _, _, _, _, _, _, _, rfl, notKey, rfl⟩ := replaced
          refine ⟨?_, by rwa [any_ciEquals] at notKey⟩
          cases byPosition with
          | true => rfl
          | false =>
              have same := previousColumn_name matched
              exact same

theorem names_of_replaceColumn {byPosition keepComments : Bool} {entries : List ((Text × Option Text) × Nat)}
    (each : List.Forall₂ (fun entry column =>
      replaceColumn typeName parseType table byPosition keepComments entry.2 entry.1 = .ok column) entries columns) :
    names columns = (entries.map (·.1)).map (lower ·.1) := by
  induction each with
  | nil => rfl
  | cons here rest ih =>
      simp only [names, List.map_cons, (replaceColumn_spec here).1]
      exact congrArg _ ih

theorem requireKept_ok {name : Text} (passed : requireKept table columns name = .ok ()) : lower name ∈ names columns := by
  unfold requireKept at passed
  rw [← any_ciEquals]
  by_contra missing
  rw [if_neg missing] at passed
  cases passed

theorem replaceColumns_keeps {given : Option StringStruct}
    {comments : Option (Option StringStruct)} {keepComments : Bool} (kept : KeepsClustering table given)
    (replaced : replaceColumns typeName parseType table given comments keepComments = .ok update) :
    UpdateKeeps table update := by
  obtain ⟨fields, fileFormat, columns, commented, rfl, passed⟩ := replaceColumns_passed typeName parseType replaced
  have given : names commented = fields.fields.map (lower ·.1) := by
    rw [applyComments_names passed.applied, names_of_replaceColumn (mapM_eq_ok.mp passed.mapped), List.zipIdx_map_fst]
  have clusteringKept : ∀ name ∈ clusteringColumns table, lower name ∈ names commented := by
    intro name member
    rcases List.mem_append.mp member with isBucket | isSort
    · exact requireKept_ok (passed.buckets name isBucket)
    · obtain ⟨column, there, rfl⟩ := List.mem_map.mp isSort
      exact requireKept_ok (passed.sorts column there)
  constructor
  · rw [given]
    apply List.pairwise_map.mpr
    exact fields.distinct.imp fun differs same => by simp [ciEquals, same] at differs
  · intro name member
    rw [applyComments_names passed.applied] at member
    obtain ⟨column, here, rfl⟩ := mem_names.mp member
    obtain ⟨entry, _, replaced⟩ := mem_of_mapM passed.mapped here
    exact (replaceColumn_spec replaced).2
  · rw [← names_eq_nil.ne, given, List.map_eq_nil_iff.ne]
    exact passed.someField
  · intro csv
    rw [IsCsv, passed.format] at csv
    cases csv
    have lengths := congrArg List.length given
    simp only [names, List.length_map] at lengths
    have counted := passed.counted rfl
    omega
  · exact fun name member _ => clusteringKept name member
  · intro csv name member index here
    rw [given]
    exact kept csv fields passed.isGiven name member index here

end Updates

section Creation

variable {typeName : LogicalType → Text} {bucketedTables : Bool} {schemaName : Text}
  {tableLocation : Except Exception Text} {base : CreateTableInfo} {planned created : GlueTableInfo}

theorem glueColumn_name {column : ColumnDefinition} {stored : GlueColumn}
    (made : glueColumn typeName column = .ok stored) : stored.name = column.name := by
  unfold glueColumn at made
  simp only [bind_eq_ok, pure_eq_ok] at made
  obtain ⟨_, _, rfl⟩ := made
  rfl

theorem names_of_glueColumn {definitions : List ColumnDefinition} {columns : List GlueColumn}
    (made : definitions.mapM (glueColumn typeName) = .ok columns) :
    names columns = definitions.map fun column => lower column.name := by
  induction mapM_eq_ok.mp made with
  | nil => rfl
  | cons here rest ih =>
      simp only [names, List.map_cons, glueColumn_name here]
      exact congrArg _ (ih (mapM_eq_ok.mpr rest))

/-- The columns of PARTITIONED BY are columns of the table, each named once. -/
theorem partitionColumnsOf_spec {tableName : Text} {columns : ColumnList} {keys : List PartitionKeyExpression}
    {found partitionColumns : List Text} (distinct : (found.map lower).Nodup)
    (named : ∀ name ∈ found, columns.columns.any (ciEquals ·.name name) = true)
    (resolved : partitionColumnsOf tableName columns found keys = .ok partitionColumns) :
    (partitionColumns.map lower).Nodup ∧
      ∀ name ∈ partitionColumns, columns.columns.any (ciEquals ·.name name) = true := by
  induction keys generalizing found with
  | nil =>
      cases resolved
      exact ⟨distinct, named⟩
  | cons key keys ih =>
      cases key with
      | expression text => cases resolved
      | qualified text => cases resolved
      | column name =>
          simp only [partitionColumnsOf, guard_throw_eq_ok] at resolved
          obtain ⟨isColumn, fresh, rest⟩ := resolved
          apply ih _ _ rest
          · rw [List.map_append]
            apply List.Nodup.append distinct (List.nodup_singleton _)
            simpa [ciEquals] using fresh
          · intro other member
            rcases List.mem_append.mp member with old | new
            · exact named other old
            · rw [List.mem_singleton.mp new]
              simpa using isColumn

theorem keyColumns_names {columns : ColumnList} {partitionColumns : List Text}
    (named : ∀ name ∈ partitionColumns, columns.columns.any (ciEquals ·.name name) = true) :
    (keyColumns columns partitionColumns).map (fun column => lower column.name) = partitionColumns.map lower := by
  unfold keyColumns
  induction partitionColumns with
  | nil => rfl
  | cons name rest ih =>
      cases found : columns.columns.find? fun column => ciEquals column.name name with
      | none =>
          obtain ⟨column, member, same⟩ := List.any_eq_true.mp (named name (by simp))
          exact absurd same (List.find?_eq_none.mp found column member)
      | some column =>
          have same : lower column.name = lower name := ciEquals_iff.mp (List.find?_some found :)
          simp only [List.filterMap_cons, found, List.map_cons, same]
          exact congrArg _ (ih fun other member => named other (by simp [member]))

/-- A column a bucketing option names is a data column. -/
theorem resolveColumn_ok {columns : ColumnList} {partitionColumns : List Text} {tableName option name resolved : Text}
    (ok : resolveColumn columns partitionColumns tableName option name = .ok resolved) :
    ∃ column ∈ dataColumns columns partitionColumns,
      column.name = resolved := by
  unfold resolveColumn at ok
  split_ifs at ok with isPartition
  cases found : columns.columns.find? fun column => ciEquals column.name name with
  | none => simp only [found, reduceCtorEq] at ok
  | some column =>
      simp only [found] at ok
      cases ok
      have same : lower column.name = lower name := ciEquals_iff.mp (List.find?_some found :)
      refine ⟨column, List.mem_filter.mpr ⟨List.mem_of_find?_eq_some found, ?_⟩, rfl⟩
      simpa [ciEquals, same] using isPartition

theorem resolveBucketing_ok {options resolved : GlueCreateTableOptions} {columns : ColumnList}
    {partitionColumns : List Text} {tableName : Text}
    (ok : resolveBucketing options columns partitionColumns tableName = .ok resolved) :
    ∀ name ∈ resolved.bucketColumns ++ resolved.sortColumns.map (·.name),
      ∃ column ∈ dataColumns columns partitionColumns,
        column.name = name := by
  unfold resolveBucketing at ok
  by_cases unbucketed : options.bucketColumns = []
  · simp only [unbucketed, if_true, guard_throw_eq_ok, pure_eq_ok] at ok
    obtain ⟨bare, rfl⟩ := ok
    intro name member
    have unsorted : options.sortColumns = [] := by
      by_contra sorted
      exact bare (by simp [sorted])
    simp [unbucketed, unsorted] at member
  · simp only [unbucketed, if_false, guard_throw_eq_ok, pure_eq_ok, bind_eq_ok, exists_unit_ok] at ok
    obtain ⟨_, buckets, bucketsOk, sorts, sortsOk, _, _, rfl⟩ := ok
    intro name member
    rcases List.mem_append.mp member with isBucket | isSort
    · obtain ⟨_, _, resolvedTo⟩ := mem_of_mapM bucketsOk isBucket
      exact resolveColumn_ok resolvedTo
    · obtain ⟨sortColumn, there, rfl⟩ := List.mem_map.mp isSort
      obtain ⟨_, _, resolvedTo⟩ := mem_of_mapM sortsOk there
      simp only [bind_eq_ok, pure_eq_ok] at resolvedTo
      obtain ⟨_, resolvedTo, rfl⟩ := resolvedTo
      exact resolveColumn_ok resolvedTo

/-- What CREATE TABLE makes of its columns. -/
theorem buildTableInfo_wellFormed
    (built : buildTableInfo typeName bucketedTables schemaName tableLocation base = .ok planned) :
    WellFormed planned ∧ ∀ name ∈ clusteringColumns planned, lower name ∈ names planned.columns := by
  obtain ⟨parsed, options, partitionColumns, steps⟩ := buildTableInfo_ok typeName built
  obtain ⟨distinctKeys, areColumns⟩ := partitionColumnsOf_spec (by simp) (by simp) steps.partitioned
  have columns := names_of_glueColumn steps.columns
  have keys := (names_of_glueColumn steps.partitionKeys).trans (keyColumns_names areColumns)
  refine ⟨⟨?_, steps.someColumn⟩, ?_⟩
  · rw [names_append, columns, keys]
    apply List.Nodup.append
    · apply List.pairwise_map.mpr
      exact (base.columns.distinct.sublist List.filter_sublist).imp fun differs same => by
        simp [ciEquals, same] at differs
    · exact distinctKeys
    · intro name member key
      obtain ⟨column, isData, rfl⟩ := List.mem_map.mp member
      obtain ⟨partitionColumn, isKey, same⟩ := List.mem_map.mp key
      have apart := (List.mem_filter.mp isData).2
      have found : partitionColumns.any (ciEquals · column.name) = true :=
        List.any_eq_true.mpr ⟨partitionColumn, isKey, ciEquals_iff.mpr same⟩
      rw [found] at apart
      cases apart
  · intro name member
    rw [steps.table] at member
    obtain ⟨column, isData, rfl⟩ := resolveBucketing_ok steps.bucketed name member
    rw [columns]
    exact List.mem_map.mpr ⟨column, isData, rfl⟩

/-- The fetched table has the columns that were planned. -/
theorem createHiveTable_wellFormed {versionId : Text} {createTimeMs : Int}
    (wellFormed : WellFormed planned ∧ ∀ name ∈ clusteringColumns planned, lower name ∈ names planned.columns)
    (stored : GlueAPI.createHiveTable planned versionId createTimeMs = .ok created) :
    WellFormed created ∧ ∀ name ∈ clusteringColumns created, lower name ∈ names created.columns := by
  unfold GlueAPI.createHiveTable at stored
  simp only [guard_throw_eq_ok, pure_eq_ok, bind_eq_ok] at stored
  obtain ⟨_, parameters, _, rfl⟩ := stored
  refine ⟨⟨wellFormed.1.distinct, wellFormed.1.someColumn⟩, ?_⟩
  intro name member
  apply wellFormed.2
  simpa [clusteringColumns, Function.comp_def] using member

end Creation

/-- A statement on a table that is there. -/
inductive ColumnStatement where
  | create (ifNotExists : Bool)
  | alter (tableName : Text) (info : AlterInfo)
  | replaceColumns (columns : Option StringStruct) (comments : Option (Option StringStruct)) (keepComments : Bool)

section Runs

variable (typeName : LogicalType → Text) (parseType : Text → Except Exception LogicalType)

/-- The change a statement makes, if it succeeds. -/
def perform (table : GlueTableInfo) : ColumnStatement → Except Exception (Option TableUpdate)
  | .create ifNotExists =>
      -- `OnExistingTable`
      if ifNotExists then .ok none
      else .error (.catalog ("Table with name \"" ++ table.name ++ "\" already exists in Glue database \"" ++
        table.schemaName ++ "\""))
  | .alter tableName info => alter typeName tableName table table info
  | .replaceColumns columns comments keepComments => do
      let update ← replaceColumns typeName parseType table columns comments keepComments
      return some update

/-- A statement that succeeds; Glue gives every update a version of its own. -/
inductive Step : GlueTableInfo → ColumnStatement → GlueTableInfo → Prop where
  | unchanged {table : GlueTableInfo} {statement : ColumnStatement}
      (done : perform typeName parseType table statement = .ok none) : Step table statement table
  | updated {table : GlueTableInfo} {statement : ColumnStatement} {update : TableUpdate}
      (done : perform typeName parseType table statement = .ok (some update)) (versionId : Text) :
      Step table statement { update.apply table with versionId }

/-- The statement leaves the positions a csv table is clustered by. -/
def Meets (table : GlueTableInfo) : ColumnStatement → Prop
  | .replaceColumns columns _ _ => KeepsClustering table columns
  | .create _ | .alter _ _ => True

def MeetingStep (table : GlueTableInfo) (statement : ColumnStatement) (table' : GlueTableInfo) : Prop :=
  Step typeName parseType table statement table' ∧ Meets table statement

variable {typeName parseType}

theorem isCsv_congr {table table' : GlueTableInfo} (same : table'.serdeLibrary = table.serdeLibrary) (csv : IsCsv table) :
    IsCsv table' := by
  unfold IsCsv GlueTableInfo.getFileFormat at csv ⊢
  simp only [bind_eq_ok, pure_eq_ok] at csv ⊢
  obtain ⟨serde, decided, format⟩ := csv
  exact ⟨serde, GlueTableInfo.getSerDe_congr (congrArg lower same.symm) decided, format⟩

theorem Keeps.refl (table : GlueTableInfo) : Keeps table table := by
  constructor <;> simp

theorem Keeps.trans {a b c : GlueTableInfo} (first : Keeps a b) (second : Keeps b c) : Keeps a c := by
  have csv : IsCsv a → IsCsv b := isCsv_congr first.serdeLibrary
  have clustered : clusteringColumns b = clusteringColumns a := by
    rw [clusteringColumns, clusteringColumns, first.bucketColumns, first.sortColumns]
  constructor
  · exact second.partitionKeys.trans first.partitionKeys
  · exact second.bucketColumns.trans first.bucketColumns
  · exact second.sortColumns.trans first.sortColumns
  · exact second.serdeLibrary.trans first.serdeLibrary
  · exact fun holds => (first.positions holds).trans (second.positions (csv holds))
  · intro name member here
    exact second.clustering name (clustered ▸ member) (first.clustering name member here)
  · intro holds name member index here
    exact second.clusteringAt (csv holds) name (clustered ▸ member) index (first.clusteringAt holds name member index here)

/-- An update that keeps the columns leaves a well formed table. -/
theorem apply_keeps {table : GlueTableInfo} {update : TableUpdate} (wellFormed : WellFormed table)
    (kept : UpdateKeeps table update) (versionId : Text) :
    WellFormed { update.apply table with versionId } ∧ Keeps table { update.apply table with versionId } := by
  cases update with
  | columns columns =>
      constructor
      · refine ⟨?_, kept.someColumn⟩
        have keys : (names table.partitionKeys).Nodup := by
          have distinct := wellFormed.distinct
          rw [names_append] at distinct
          exact distinct.of_append_right
        change (names (columns ++ table.partitionKeys)).Nodup
        rw [names_append]
        exact List.Nodup.append kept.distinct keys kept.apart
      · exact ⟨rfl, rfl, rfl, rfl, kept.positions, kept.clustering, kept.clusteringAt⟩
  | partitionKeys keys =>
      constructor
      · refine ⟨?_, wellFormed.someColumn⟩
        have same : names keys = names table.partitionKeys := by
          have mapped := congrArg (List.map fun key : Text × Text => lower key.1) kept
          simp only [List.map_map] at mapped
          exact mapped
        have distinct := wellFormed.distinct
        change (names (table.columns ++ keys)).Nodup
        rw [names_append] at distinct ⊢
        rwa [same]
      · exact { Keeps.refl table with partitionKeys := kept }
  | description => exact ⟨⟨wellFormed.distinct, wellFormed.someColumn⟩, { Keeps.refl table with }⟩
  | location => exact ⟨⟨wellFormed.distinct, wellFormed.someColumn⟩, { Keeps.refl table with }⟩
  | parameters => exact ⟨⟨wellFormed.distinct, wellFormed.someColumn⟩, { Keeps.refl table with }⟩

/-- One statement. -/
theorem step_keeps {table table' : GlueTableInfo} {statement : ColumnStatement}
    (stepped : MeetingStep typeName parseType table statement table') (wellFormed : WellFormed table) :
    WellFormed table' ∧ Keeps table table' := by
  obtain ⟨step, meets⟩ := stepped
  cases step with
  | unchanged => exact ⟨wellFormed, Keeps.refl table⟩
  | updated done versionId =>
      apply apply_keeps wellFormed
      cases statement with
      | create ifNotExists =>
          cases ifNotExists with
          | true => cases done
          | false => cases done
      | alter tableName info => exact alter_keeps wellFormed done
      | replaceColumns columns comments keepComments =>
          simp only [perform, bind_eq_ok, pure_eq_ok, Option.some_inj, exists_eq_right] at done
          exact replaceColumns_keeps meets done

/-- A run of statements. -/
theorem run_keeps {table table' : GlueTableInfo} {statements : List ColumnStatement}
    (run : Run (MeetingStep typeName parseType) table statements table') (wellFormed : WellFormed table) :
    WellFormed table' ∧ Keeps table table' := by
  induction run with
  | nil => exact ⟨wellFormed, Keeps.refl _⟩
  | cons first _ ih =>
      obtain ⟨wellFormed', kept⟩ := step_keeps first wellFormed
      obtain ⟨final, keptLater⟩ := ih wellFormed'
      exact ⟨final, kept.trans keptLater⟩

/-- What holds of a table some time after a statement found it in another state. -/
structure StaysWellFormed (created reached table : GlueTableInfo) : Prop where
  distinct : (names (table.columns ++ table.partitionKeys)).Nodup
  someColumn : table.columns ≠ []
  partitionKeys : table.partitionKeys.map (fun key => (key.name, key.type)) =
    created.partitionKeys.map fun key => (key.name, key.type)
  positions : IsCsv created → reached.columns.length ≤ table.columns.length
  bucketColumns : table.bucketColumns = created.bucketColumns
  sortColumns : table.sortColumns = created.sortColumns
  clustering : ∀ name ∈ clusteringColumns created, lower name ∈ names created.columns ∧ lower name ∈ names table.columns
  clusteringAt : IsCsv created → ∀ name ∈ clusteringColumns created, ∀ index : Nat,
    (names created.columns)[index]? = some (lower name) → (names table.columns)[index]? = some (lower name)

/-- A run from CREATE TABLE, through any table reached on the way: as long as
glue_replace_columns leaves the positions a csv table is clustered by, the columns stay
well formed. -/
theorem staysWellFormed_of_run {bucketedTables : Bool} {schemaName : Text} {tableLocation : Except Exception Text}
    {base : CreateTableInfo} {planned created reached table : GlueTableInfo} {versionId : Text} {createTimeMs : Int}
    {before after : List ColumnStatement}
    (built : buildTableInfo typeName bucketedTables schemaName tableLocation base = .ok planned)
    (stored : GlueAPI.createHiveTable planned versionId createTimeMs = .ok created)
    (early : Run (MeetingStep typeName parseType) created before reached)
    (late : Run (MeetingStep typeName parseType) reached after table) : StaysWellFormed created reached table := by
  obtain ⟨wellFormed, named⟩ := createHiveTable_wellFormed (buildTableInfo_wellFormed built) stored
  obtain ⟨wellFormed', kept⟩ := run_keeps early wellFormed
  obtain ⟨final, keptLate⟩ := run_keeps late wellFormed'
  have keptAll := kept.trans keptLate
  constructor
  · exact final.distinct
  · exact final.someColumn
  · exact keptAll.partitionKeys
  · exact fun csv => keptLate.positions (isCsv_congr kept.serdeLibrary csv)
  · exact keptAll.bucketColumns
  · exact keptAll.sortColumns
  · exact fun name member => ⟨named name member, keptAll.clustering name member (named name member)⟩
  · exact keptAll.clusteringAt

end Runs

section Examples

def textOption (text : Text) : OptionScalar where
  text := text
  boolean := .error (.invalidInput ("Could not convert string '" ++ text ++ "' to BOOL"))

/-- `CREATE TABLE t (a INTEGER, b INTEGER)`, a csv table in two buckets of a. -/
def bucketedTable : CreateTableInfo where
  name := "t"
  columns := ⟨[{ name := "a", type := .integer }, { name := "b", type := .integer }], by decide⟩
  options := [("format", some ⟨textOption "csv", none, false⟩),
    ("location", some ⟨textOption "s3://bucket/t", none, false⟩),
    ("BucketColumns", some ⟨textOption "[a]", some [some ⟨textOption "a", []⟩], false⟩),
    ("NumberOfBuckets", some ⟨{ text := "2", boolean := .ok true, integer := some 2 }, none, false⟩)]

/-- `\x7bb: 'INTEGER', a: 'INTEGER'\x7d` -/
def swappedColumns : StringStruct := ⟨[("b", some "INTEGER".toList), ("a", some "INTEGER".toList)], by decide⟩

/-- Swapping the columns gives the bucket column's name to the other position. -/
theorem replaceColumns_movesBucketColumn :
    ∃ planned created table : GlueTableInfo,
      buildTableInfo (fun _ => []) true "db" (.error (.invalidInput "no location")) bucketedTable = .ok planned ∧
      GlueAPI.createHiveTable planned "0" 0 = .ok created ∧
      Run (Step (fun _ => []) fun _ => .ok .integer) created [.replaceColumns (some swappedColumns) none false] table ∧
      IsCsv created ∧ "a".toList ∈ clusteringColumns created ∧
      (names created.columns)[0]? = some (lower "a") ∧ (names table.columns)[0]? = some (lower "b") := by
  let swapped : TableUpdate := .columns [{ name := "b", type := "int" }, { name := "a", type := "int" }]
  have done : ∀ created : GlueTableInfo,
      perform (fun _ => []) (fun _ => .ok .integer) created (.replaceColumns (some swappedColumns) none false) =
        .ok (some swapped) → Step (fun _ => []) (fun _ => .ok .integer) created
          (.replaceColumns (some swappedColumns) none false) { swapped.apply created with versionId := "1" } :=
    fun _ done => .updated done "1"
  refine ⟨_, _, _, rfl, rfl, .single (done _ rfl), rfl, ?_, rfl, rfl⟩
  decide

/-- A rename of the other column leaves it where it is. -/
theorem staysWellFormed_of_rename :
    ∃ created table : GlueTableInfo, names table.columns = ["a".toList, "c".toList] ∧
      StaysWellFormed created created table := by
  have built : buildTableInfo (fun _ => []) true "db" (.error (.invalidInput "no location")) bucketedTable =
      .ok (plannedTable "db" bucketedTable
        { format := .csv, location := "s3://bucket/t", bucketColumns := ["a"], numberOfBuckets := 2 } "s3://bucket/t"
        [{ name := "a", type := "int" }, { name := "b", type := "int" }] []) := rfl
  let renamed : TableUpdate := .columns [{ name := "a", type := "int" }, { name := "c", type := "int" }]
  have done : ∀ created : GlueTableInfo,
      perform (fun _ => []) (fun _ => .ok .integer) created (.alter "t" (.renameColumn "b" "c")) = .ok (some renamed) →
        MeetingStep (fun _ => []) (fun _ => .ok .integer) created (.alter "t" (.renameColumn "b" "c"))
          { renamed.apply created with versionId := "1" } :=
    fun _ done => ⟨.updated done "1", trivial⟩
  have run := fun (created : GlueTableInfo) (stored : GlueAPI.createHiveTable _ "0" 0 = .ok created)
      (renames : perform (fun _ => []) (fun _ => .ok .integer) created _ = .ok (some renamed)) =>
    staysWellFormed_of_run built stored .nil (.single (done created renames))
  exact ⟨_, _, rfl, run _ rfl rfl⟩

end Examples

end ColumnSet

end DuckGlue
