import DuckGlue.Catalog.ColumnSet

/-! # Versions of a table

The statements that change the definition of a table, with their checks and what they do
in Glue when these pass. Whatever they change, later versions of a table pass what
glue_alter_table checked of an earlier one.
-/

namespace DuckGlue

open StringUtil GlueSchemaEntry GluePartitionFunctions Fallible

/-- What the statements use of DuckDB. -/
structure StatementFunctions where
  typeName : LogicalType → Text
  parseType : Text → Except Exception LogicalType
  castKey : LogicalType → Text → Except Exception Text
  hive : HivePartitioning

/-- A statement that changes a table's definition. -/
inductive TableStatement where
  | alter (tableName : Text) (info : AlterInfo)
  | replaceColumns (columns : Option StringStruct) (comments : Option (Option StringStruct)) (keepComments : Bool)
  | setTableLocation (location : Option Text)
  | alterTable (actions : List GlueAlterAction)

/-- What a statement has to do in Glue. -/
inductive TableWork where
  | update (update : TableUpdate)
  /-- `RefreshTable` -/
  | refresh
  /-- Requests about partitions. -/
  | partitions
  deriving Repr, DecidableEq

/-- The updates among it. -/
def TableWork.updates (work : List TableWork) : List TableUpdate :=
  work.filterMap fun
    | .update given => some given
    | .refresh | .partitions => none

namespace TableStatement

/-- A step of glue_alter_table, after the requests of the steps before it. -/
def stepWork : GlueAlterStep → List TableWork
  | .setTableLocation location => [.partitions, .update (.location location)]
  | .add _ _ _ | .drop _ _ | .rename _ _ | .setPartitionLocation _ _ _ => [.partitions]

variable (functions : StatementFunctions)

/-- The checks of a statement on the entry that is bound and the definition to write, and
what it does when they pass. -/
def check (bound definition : GlueTableInfo) : TableStatement → Except Exception (List TableWork)
  | .alter tableName info => do
      let update ← GlueSchemaEntry.alter functions.typeName tableName bound definition info
      return update.elim [] fun update => [.update update, .refresh]
  | .replaceColumns columns comments keepComments => do
      let update ← GluePartitionFunctions.replaceColumns functions.typeName functions.parseType definition columns comments keepComments
      return [.update update, .refresh]
  | .setTableLocation location => do
      let update ← GluePartitionFunctions.setTableLocation definition location
      return [.update update]
  | .alterTable actions => do
      let steps ← alterTableBind functions.hive functions.castKey definition actions
      return .partitions :: steps.flatMap stepWork ++ [.partitions]

end TableStatement

/-- What later versions of a table have of an earlier one. -/
structure Evolves (table table' : GlueTableInfo) : Prop where
  name : table'.name = table.name
  schemaName : table'.schemaName = table.schemaName
  glueTableType : table'.glueTableType = table.glueTableType
  partitionKeys : table'.partitionKeys.map (fun key => (key.name, key.type)) =
    table.partitionKeys.map fun key => (key.name, key.type)
  hive : table.getFormat.isHive = true → table'.getFormat.isHive = true
  located : rtrim table.location '/' ≠ [] → rtrim table'.location '/' ≠ []

namespace Evolves

variable {a b c : GlueTableInfo}

theorem refl (table : GlueTableInfo) : Evolves table table := ⟨rfl, rfl, rfl, rfl, id, id⟩

theorem trans (first : Evolves a b) (second : Evolves b c) : Evolves a c where
  name := second.name.trans first.name
  schemaName := second.schemaName.trans first.schemaName
  glueTableType := second.glueTableType.trans first.glueTableType
  partitionKeys := second.partitionKeys.trans first.partitionKeys
  hive := second.hive ∘ first.hive
  located := second.located ∘ first.located

end Evolves

/-- What the checks see to of an update. -/
def UpdateAllowed (table : GlueTableInfo) : TableUpdate → Prop
  | .columns _ | .description _ => True
  | .partitionKeys keys =>
      keys.map (fun key => (key.name, key.type)) = table.partitionKeys.map fun key => (key.name, key.type)
  | .location location => rtrim location '/' ≠ []
  | .parameters set unset =>
      (∀ entry ∈ set, GlueTableFormat.isParameter entry.1 = false) ∧ ∀ key ∈ unset, GlueTableFormat.isParameter key = false

section Parameters

variable {table : GlueTableInfo} {parameters : Parameters} {key other value : Text}

/-- The value of a key in any case. -/
def Parameters.inAnyCase (parameters : Parameters) (key : Text) : Option Text :=
  (parameters.entries.find? fun entry => ciEquals entry.1 key).map (·.2)

theorem getParameter_eq : table.getParameter key = (table.parameters.inAnyCase key).getD [] := rfl

theorem inAnyCase_erase (differs : ciEquals other key = false) :
    Parameters.inAnyCase (parameters.erase other) key = parameters.inAnyCase key := by
  unfold Parameters.inAnyCase
  congr 1
  change (List.kerase other parameters.entries).find? _ = _
  induction parameters.entries with
  | nil => rfl
  | cons entry entries ih =>
      by_cases here : other = entry.1
      · rw [List.kerase_cons_eq here]
        subst here
        simp [differs]
      · rw [List.kerase_cons_ne here, List.find?_cons, List.find?_cons, ih]

theorem inAnyCase_insert (differs : ciEquals other key = false) :
    Parameters.inAnyCase (parameters.insert other value) key = parameters.inAnyCase key := by
  apply Eq.trans _ (inAnyCase_erase differs)
  unfold Parameters.inAnyCase
  congr 1
  change List.find? _ (⟨other, value⟩ :: List.kerase other parameters.entries) = _
  rw [List.find?_cons, differs]
  rfl

end Parameters

section Updates

variable {table : GlueTableInfo} {update : TableUpdate}

/-- The parameters an allowed update does not touch. -/
theorem getParameter_apply (allowed : UpdateAllowed table update) {key : Text}
    (format : ∀ other, GlueTableFormat.isParameter other = false → ciEquals other key = false) :
    (update.apply table).getParameter key = table.getParameter key := by
  rw [getParameter_eq, getParameter_eq]
  congr 1
  cases update with
  | columns | partitionKeys | location => rfl
  | description given =>
      have comment := format "comment".toList (by decide)
      unfold TableUpdate.apply
      dsimp only
      split_ifs
      · exact inAnyCase_erase comment
      · exact inAnyCase_insert comment
  | parameters set unset =>
      obtain ⟨setAllowed, unsetAllowed⟩ := allowed
      have unsetKept : (unset.foldl (fun parameters key => parameters.erase key) table.parameters).inAnyCase key =
          table.parameters.inAnyCase key := by
        generalize table.parameters = parameters
        induction unset generalizing parameters with
        | nil => rfl
        | cons other unset ih =>
            rw [List.foldl_cons, ih fun key member => unsetAllowed key (List.mem_cons_of_mem _ member)]
            exact inAnyCase_erase (format other (unsetAllowed other List.mem_cons_self))
      apply Eq.trans _ unsetKept
      unfold TableUpdate.apply
      dsimp only
      generalize unset.foldl (fun parameters key => parameters.erase key) table.parameters = parameters
      induction set generalizing parameters with
      | nil => rfl
      | cons entry set ih =>
          rw [List.foldl_cons, ih fun entry member => setAllowed entry (List.mem_cons_of_mem _ member)]
          exact inAnyCase_insert (format entry.1 (setAllowed entry List.mem_cons_self))

theorem fromParameters_apply (allowed : UpdateAllowed table update) :
    GlueTableFormat.fromParameters (update.apply table) = GlueTableFormat.fromParameters table := by
  have kept : ∀ key, GlueTableFormat.isParameter key = true →
      (update.apply table).getParameter key = table.getParameter key := by
    intro key isFormat
    apply getParameter_apply allowed
    intro other notFormat
    cases same : ciEquals other key with
    | false => rfl
    | true =>
        have folded : GlueTableFormat.isParameter other = GlueTableFormat.isParameter key := by
          simp only [GlueTableFormat.isParameter, ciEquals, ciEquals_iff.mp same]
        rw [notFormat, isFormat] at folded
        cases folded
  unfold GlueTableFormat.fromParameters GlueTableInfo.getMetadataLocation
  rw [kept "table_type" (by decide), kept "spark.sql.sources.provider" (by decide), kept "metadata_location" (by decide)]

/-- An update a statement's checks allow. -/
theorem apply_evolves (allowed : UpdateAllowed table update) (versionId : Text) :
    Evolves table { update.apply table with versionId } := by
  have located : rtrim table.location '/' ≠ [] → rtrim (update.apply table).location '/' ≠ [] := by
    cases update with
    | location => exact fun _ => allowed
    | columns | partitionKeys | description | parameters => exact id
  constructor
  · cases update <;> rfl
  · cases update <;> rfl
  · cases update <;> rfl
  · cases update with
    | partitionKeys => exact allowed
    | columns | description | location | parameters => rfl
  · intro hive
    obtain ⟨announced, revealed, stored⟩ := GlueTableFormat.detect_isHive.mp hive
    apply GlueTableFormat.detect_isHive.mpr
    have inputFormat : (update.apply table).inputFormat = table.inputFormat := by cases update <;> rfl
    refine ⟨(fromParameters_apply allowed).trans announced, (congrArg _ inputFormat).trans revealed, ?_⟩
    cases update with
    | location given =>
        right
        intro empty
        have none : given = [] := empty
        rw [none] at allowed
        exact allowed rfl
    | columns | partitionKeys | description | parameters => exact stored
  · exact located

/-- A property that passed its check is none of the format's. -/
theorem checkTablePropertyChangeable_ok {key : Text} (passed : checkTablePropertyChangeable key = .ok ()) :
    GlueTableFormat.isParameter key = false := by
  simp only [checkTablePropertyChangeable, guard_throw_eq_ok, stop_throw_eq_ok] at passed
  simpa using passed.2.1

theorem setTableProperties_allowed {options : List (Text × Option OptionValue)}
    (set : setTableProperties options = .ok update) : UpdateAllowed table update := by
  simp only [setTableProperties, bind_eq_ok, pure_eq_ok] at set
  obtain ⟨evaluated, _, entries, checked, rfl⟩ := set
  refine ⟨?_, by simp⟩
  intro entry member
  obtain ⟨option, _, passed⟩ := mem_of_mapM checked member
  simp only [bind_eq_ok, pure_eq_ok, exists_unit_ok] at passed
  obtain ⟨changeable, rfl⟩ := passed
  exact checkTablePropertyChangeable_ok changeable

theorem resetTableProperties_allowed {options : List Text} (reset : resetTableProperties options = .ok update) :
    UpdateAllowed table update := by
  simp only [resetTableProperties, bind_eq_ok, pure_eq_ok, exists_unit_ok] at reset
  obtain ⟨checked, rfl⟩ := reset
  exact ⟨by simp, fun key member => checkTablePropertyChangeable_ok (forM_eq_ok.mp checked key member)⟩

theorem setColumnComment_allowed {name : Text} {comment : Option Text}
    (set : setColumnComment table name comment = .ok update) : UpdateAllowed table update := by
  unfold setColumnComment at set
  dsimp only at set
  split_ifs at set with key column
  · cases set
    exact ColumnSet.modifyFirst_map (fun column => (column.name, column.type)) fun _ => rfl
  · cases set
    trivial

theorem alter_allowed {typeName : LogicalType → Text} {tableName : Text} {bound : GlueTableInfo} {info : AlterInfo}
    (altered : GlueSchemaEntry.alter typeName tableName bound table info = .ok (some update)) :
    UpdateAllowed table update := by
  cases alter_made altered with
  | setColumnComment set => exact setColumnComment_allowed set
  | setComment => trivial
  | setTableOptions set => exact setTableProperties_allowed set
  | resetTableOptions reset => exact resetTableProperties_allowed reset
  | addColumn added =>
      obtain ⟨_, _, rfl⟩ := addColumn_passed added
      trivial
  | removeColumn removed =>
      obtain ⟨_, _, _, _, rfl⟩ := removeColumn_passed removed
      trivial
  | renameColumn renamed =>
      obtain ⟨_, _, _, _, _, _, rfl⟩ := renameColumn_passed renamed
      trivial
  | alterColumnType altered =>
      obtain ⟨_, _, _, _, _, _, _, rfl⟩ := alterColumnType_passed altered
      trivial

/-- A location that passed is not empty without its trailing slashes. -/
theorem parseLocation_ok {functionName parsed : Text} {location : Option Text}
    (passed : parseLocation functionName location = .ok parsed) : rtrim parsed '/' ≠ [] := by
  unfold parseLocation at passed
  cases location with
  | none => simp only [throw_ne_ok] at passed
  | some given =>
      simp only [guard_throw_eq_ok, pure_eq_ok] at passed
      obtain ⟨some, _, rfl⟩ := passed
      intro empty
      apply some
      rw [rtrim] at empty ⊢
      rwa [← Segments.trimEnd_trimEnd]

end Updates

namespace TableStatement

variable {functions : StatementFunctions} {bound table table' : GlueTableInfo} {statement : TableStatement}
  {work : List TableWork} {update : TableUpdate}

theorem parseAction_setTableLocation {action : GlueAlterAction} {location : Text}
    (parsed : parseAction functions.hive functions.castKey table action = .ok (.setTableLocation location)) :
    ∃ given, parseLocation "ALTER TABLE SET LOCATION" given = .ok location := by
  unfold parseAction at parsed
  dsimp only at parsed
  split_ifs at parsed <;> simp only [bind_eq_ok, pure_eq_ok, reduceCtorEq, and_false, exists_false,
    GlueAlterStep.setTableLocation.injEq] at parsed
  obtain ⟨_, isLocation, rfl⟩ := parsed
  exact ⟨_, isLocation⟩

theorem updates_append {more : List TableWork} :
    TableWork.updates (work ++ more) = TableWork.updates work ++ TableWork.updates more :=
  List.filterMap_append

/-- An update a statement goes on to make passed its checks. -/
theorem check_allowed (passed : statement.check functions bound table = .ok work) (member : .update update ∈ work) :
    UpdateAllowed table update := by
  cases statement with
  | alter tableName info =>
      simp only [check, bind_eq_ok, pure_eq_ok] at passed
      obtain ⟨made, altered, rfl⟩ := passed
      cases made with
      | none => cases member
      | some made =>
          have same : update = made := by simpa using member
          rw [same]
          exact alter_allowed altered
  | replaceColumns columns comments keepComments =>
      simp only [check, bind_eq_ok, pure_eq_ok] at passed
      obtain ⟨made, replaced, rfl⟩ := passed
      obtain ⟨_, _, _, commented, rfl, _⟩ := replaceColumns_passed _ _ replaced
      have same : update = .columns commented := by simpa using member
      rw [same]
      trivial
  | setTableLocation location =>
      simp only [check, bind_eq_ok, pure_eq_ok, GluePartitionFunctions.setTableLocation] at passed
      obtain ⟨made, ⟨_, _, parsed, isLocation, rfl⟩, rfl⟩ := passed
      have same : update = .location parsed := by simpa using member
      rw [same]
      exact parseLocation_ok isLocation
  | alterTable actions =>
      simp only [check, bind_eq_ok, pure_eq_ok] at passed
      obtain ⟨steps, bound, rfl⟩ := passed
      have later : .update update ∈ steps.flatMap stepWork := by simpa using member
      obtain ⟨step, stepHere, inStep⟩ := List.mem_flatMap.mp later
      cases step with
      | setTableLocation location =>
          have same : update = .location location := by simpa [stepWork] using inStep
          rw [same]
          simp only [alterTableBind, bind_eq_ok, exists_unit_ok] at bound
          obtain ⟨action, _, parsed⟩ := mem_of_mapM bound.2 stepHere
          obtain ⟨given, isLocation⟩ := parseAction_setTableLocation parsed
          exact parseLocation_ok isLocation
      | add | drop | rename | setPartitionLocation => simp [stepWork] at inStep

/-- Only glue_alter_table makes more than one update. -/
theorem check_single (passed : statement.check functions bound table = .ok work) :
    (TableWork.updates work).length ≤ 1 ∨ ∃ actions, statement = .alterTable actions := by
  cases statement with
  | alter tableName info =>
      left
      simp only [check, bind_eq_ok, pure_eq_ok] at passed
      obtain ⟨made, _, rfl⟩ := passed
      cases made <;> simp [TableWork.updates]
  | replaceColumns columns comments keepComments =>
      left
      simp only [check, bind_eq_ok, pure_eq_ok] at passed
      obtain ⟨made, _, rfl⟩ := passed
      simp [TableWork.updates]
  | setTableLocation location =>
      left
      simp only [check, bind_eq_ok, pure_eq_ok] at passed
      obtain ⟨made, _, rfl⟩ := passed
      simp [TableWork.updates]
  | alterTable actions => exact .inr ⟨actions, rfl⟩

/-- Of the bound entry the checks only look whether it is a view. -/
theorem check_bound {other : GlueTableInfo} (same : bound.isView = other.isView) :
    statement.check functions bound table = statement.check functions other table := by
  cases statement with
  | alter tableName info =>
      have altered : GlueSchemaEntry.alter functions.typeName tableName bound table info =
          GlueSchemaEntry.alter functions.typeName tableName other table info := by
        unfold GlueSchemaEntry.alter
        rw [same]
      simp only [check, altered]
  | replaceColumns | setTableLocation | alterTable => rfl

section Evolving

variable (evolves : Evolves table table')

include evolves

theorem keyTypes_evolves : keyTypes table' = keyTypes table := evolves.partitionKeys

theorem targetName_evolves : targetName table' = targetName table := by
  simp only [targetName, evolves.name, evolves.schemaName]

theorem fillPartition_evolves {castKey : LogicalType → Text → Except Exception Text} (result : List (Option Text))
    (pairs : List (Text × Option Text)) :
    fillPartition castKey table' result pairs = fillPartition castKey table result pairs := by
  induction pairs generalizing result with
  | nil => rfl
  | cons pair pairs ih =>
      simp only [fillPartition, keyTypes_evolves evolves, targetName_evolves evolves, describeKeys, ih]

theorem parsePartitionPairsValue_evolves {castKey : LogicalType → Text → Except Exception Text} (functionName : Text)
    (pairs : Option (List (Option Text × Option Text))) :
    parsePartitionPairsValue castKey functionName table' pairs =
      parsePartitionPairsValue castKey functionName table pairs := by
  simp only [parsePartitionPairsValue, parsePartitionPairs, fillPartition_evolves evolves, keyTypes_evolves evolves,
    targetName_evolves evolves, describeKeys]

theorem defaultPartitionLocation_evolves {values : List Text} {location : Text}
    (located : defaultPartitionLocation functions.hive table values = .ok location) :
    ∃ location', defaultPartitionLocation functions.hive table' values = .ok location' := by
  unfold defaultPartitionLocation at located ⊢
  split_ifs at located with empty
  rw [if_neg (evolves.located empty)]
  exact ⟨_, rfl⟩

/-- A step that passed with one version passes with a later one, with the same work. -/
theorem parseAction_evolves {action : GlueAlterAction} {step : GlueAlterStep}
    (parsed : parseAction functions.hive functions.castKey table action = .ok step) :
    ∃ step', parseAction functions.hive functions.castKey table' action = .ok step' ∧ stepWork step' = stepWork step := by
  unfold parseAction at parsed ⊢
  simp only [parsePartitionPairsValue_evolves evolves]
  by_cases add : lower action.action = "add".toList
  · rw [if_pos add] at parsed ⊢
    cases none : action.location.isNone with
    | true =>
        simp only [none, if_true, bind_eq_ok, pure_eq_ok] at parsed ⊢
        obtain ⟨values, parsedValues, location, located, rfl⟩ := parsed
        obtain ⟨location', located'⟩ := defaultPartitionLocation_evolves evolves located
        exact ⟨_, ⟨values, parsedValues, location', located', rfl⟩, rfl⟩
    | false =>
        simp only [none, Bool.false_eq_true, if_false] at parsed ⊢
        exact ⟨step, parsed, rfl⟩
  · rw [if_neg add] at parsed ⊢
    exact ⟨step, parsed, rfl⟩

theorem resolveGlueTable_evolves {functionName : Text} {requirePartitions : Bool}
    (resolved : resolveGlueTable functionName requirePartitions table = .ok ()) :
    resolveGlueTable functionName requirePartitions table' = .ok () := by
  have view : table'.isView = table.isView := by simp only [GlueTableInfo.isView, evolves.glueTableType]
  have keyed : table.partitionKeys = [] ↔ table'.partitionKeys = [] := by
    rw [← @List.map_eq_nil_iff _ _ (fun key : GlueColumn => (key.name, key.type)), ← evolves.partitionKeys,
      List.map_eq_nil_iff]
  rw [resolveGlueTable_ok] at resolved ⊢
  exact ⟨view.trans resolved.1, evolves.hive resolved.2.1, fun required => keyed.not.mp (resolved.2.2 required)⟩

/-- glue_alter_table binds to a later version as it does to an earlier one. -/
theorem check_alterTable_evolves {actions : List GlueAlterAction} {other : GlueTableInfo}
    (passed : check functions bound table (.alterTable actions) = .ok work) :
    check functions other table' (.alterTable actions) = .ok work := by
  simp only [check, alterTableBind, bind_eq_ok, pure_eq_ok, exists_unit_ok] at passed ⊢
  obtain ⟨steps, ⟨resolved, parsed⟩, rfl⟩ := passed
  have again : ∃ steps', actions.mapM (parseAction functions.hive functions.castKey table') = .ok steps' ∧
      steps'.flatMap stepWork = steps.flatMap stepWork := by
    clear resolved
    induction mapM_eq_ok.mp parsed with
    | nil => exact ⟨[], rfl, rfl⟩
    | cons here rest ih =>
        obtain ⟨step', here', sameStep⟩ := parseAction_evolves evolves here
        obtain ⟨steps', rest', same⟩ := ih (mapM_eq_ok.mpr rest)
        exact ⟨step' :: steps', mapM_eq_ok.mpr (.cons here' (mapM_eq_ok.mp rest')), by simp [sameStep, same]⟩
  obtain ⟨steps', parsed', same⟩ := again
  exact ⟨steps', ⟨resolveGlueTable_evolves evolves resolved, parsed'⟩, by rw [same]⟩

end Evolving

end TableStatement

end DuckGlue
