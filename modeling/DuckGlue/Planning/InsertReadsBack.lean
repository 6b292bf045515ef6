import DuckGlue.Planning.InsertDirectories
import DuckGlue.Planning.OwningPartition

/-! # Inserted rows read back

After an INSERT a row's file lies directly in a registered directory, and reading
finds the partition registered there. It is the row's own unless the partition path
let the row into the directory of a partition whose columns differ from the table's.
-/

namespace DuckGlue

open StringUtil Fallible

namespace GlueHiveInsert

section Registration

variable {Value : Type} {hive : HivePartitioning} {casts : KeyCasts Value} {table : GlueTableInfo}
  {columns : List PartitionColumn} {row : List (Option Value)} {location : Text}
  {directories : List (Text × List Text)}

theorem directoryOf_file {directory name : Text} (plain : '/' ∉ name) :
    directoryOf (directory ++ ['/'] ++ name) = directory := by
  have reversed : ∀ c ∈ name.reverse, decide (c ≠ '/') = true := by
    intro c member
    simp only [decide_eq_true_eq]
    rintro rfl
    exact plain (List.mem_reverse.mp member)
  have slash : '/' ∈ directory ++ ['/'] ++ name := by simp
  rw [directoryOf, if_pos slash, List.reverse_append, List.dropWhile_append_of_pos reversed]
  simp

theorem registration_location {file : Text} {partition : GluePartitionInput}
    (h : registration hive table directories file = .ok partition) : partition.location = directoryOf file := by
  unfold registration at h
  dsimp only at h
  split at h
  · cases h
    rfl
  · split at h
    · cases h
    · obtain ⟨values, -, h⟩ := bind_eq_ok.mp h
      cases h
      rfl

theorem registration_known {file : Text} {values : List Text} (known : directories.lookup (directoryOf file) = some values) :
    registration hive table directories file = .ok { values, location := directoryOf file } := by
  unfold registration
  simp only [known]

/-- A file in the hive directory of a row is registered with the row's texts. -/
theorem registration_hive {name : Text} (plain : '/' ∉ name)
    (named : List.Forall₂ (fun (key : GlueColumn) (column : PartitionColumn) => ciEquals column.1 key.name = true)
      table.partitionKeys columns) (length : row.length = columns.length)
    (unknown : directories.lookup (location ++ ['/'] ++ hivePath hive casts columns row) = none) :
    registration hive table directories (location ++ ['/'] ++ hivePath hive casts columns row ++ ['/'] ++ name) =
      .ok { values := row.map (canonicalValue casts), location := location ++ ['/'] ++ hivePath hive casts columns row } := by
  have named' : List.Forall₂ (fun key (column : PartitionColumn) => ciEquals column.1 key = true)
      (table.partitionKeys.map (·.name)) columns := List.forall₂_map_left_iff.mpr named
  have back := Segments.split_intercalate
    (IsDirectory.plain (@components_allowed _ hive casts columns row))
  obtain ⟨w, ws, whole⟩ := Segments.split_below '/' location (hivePath hive casts columns row)
  have segments : split (location ++ ['/'] ++ hivePath hive casts columns row) '/' = w :: ws ++
      List.zipWith (fun column value => hivePartitionComponent hive casts column.1 value) columns row := by
    rw [List.append_assoc]
    exact whole.trans (congrArg (w :: ws ++ ·) back)
  have keys : (table.partitionKeys.map (·.name)).length = columns.length := named'.length_eq
  have components : (List.zipWith (fun column value => hivePartitionComponent hive casts column.1 value)
      columns row).length = columns.length := by simp [length]
  unfold registration
  dsimp only
  rw [directoryOf_file plain, unknown, segments, keys]
  dsimp only
  have enough : ¬(w :: ws ++ List.zipWith (fun column value => hivePartitionComponent hive casts column.1 value)
      columns row).length < columns.length := by
    rw [List.length_append, components]
    omega
  rw [if_neg enough, List.length_append, components, Nat.add_sub_cancel, List.drop_left,
    componentValues _ named' length]
  rfl

theorem registrations_spec {files : List Text} {found partitions : List GluePartitionInput}
    (h : registrations hive table directories files found = .ok partitions) :
    (∀ partition ∈ found, partition ∈ partitions) ∧
      (∀ partition ∈ partitions, partition ∈ found ∨
        ∃ file ∈ files, registration hive table directories file = .ok partition) ∧
      ∀ file ∈ files, ∃ partition ∈ partitions, partition.location = directoryOf file := by
  induction files generalizing found with
  | nil =>
      cases h
      exact ⟨fun _ member => member, fun _ member => .inl member, by simp⟩
  | cons file files ih =>
      rw [registrations] at h
      split at h
      · rename_i known
        obtain ⟨kept, origin, later⟩ := ih h
        refine ⟨kept, fun partition member => ?_, ?_⟩
        · cases origin partition member with
          | inl earlier => exact .inl earlier
          | inr new =>
              obtain ⟨other, inside, registered⟩ := new
              exact .inr ⟨other, List.mem_cons_of_mem _ inside, registered⟩
        · obtain ⟨partition, member, same⟩ := List.any_eq_true.mp known
          exact List.forall_mem_cons.mpr ⟨⟨partition, kept partition member, of_decide_eq_true same⟩, later⟩
      · obtain ⟨partition, here, h⟩ := bind_eq_ok.mp h
        obtain ⟨kept, origin, later⟩ := ih h
        refine ⟨fun other member => kept other (List.mem_append_left _ member), fun other member => ?_, ?_⟩
        · cases origin other member with
          | inl earlier =>
              cases List.mem_append.mp earlier with
              | inl before => exact .inl before
              | inr last =>
                  obtain rfl := List.mem_singleton.mp last
                  exact .inr ⟨file, List.mem_cons_self, here⟩
          | inr new =>
              obtain ⟨later, inside, registered⟩ := new
              exact .inr ⟨later, List.mem_cons_of_mem _ inside, registered⟩
        · exact List.forall_mem_cons.mpr
            ⟨⟨partition, kept partition (by simp), registration_location here⟩, later⟩

/-- What Glue has registered after a batch: what it had, and a partition for every
value list it did not know. -/
theorem batchCreatePartitions_spec (partitions : List GluePartitionInput) (registered : List GluePartitionInfo) :
    (∃ new, (batchCreatePartitions table partitions registered).1 = registered ++ new) ∧
      (∀ partition ∈ (batchCreatePartitions table partitions registered).1, partition ∈ registered ∨
        ∃ input ∈ partitions, partition = created table input ∧
          ∀ known ∈ registered, known.values ≠ input.values) ∧
      (∀ input ∈ partitions, ∃ partition ∈ (batchCreatePartitions table partitions registered).1,
        partition.values = input.values) ∧
      ((registered.map (·.values)).Nodup →
        ((batchCreatePartitions table partitions registered).1.map (·.values)).Nodup) := by
  induction partitions generalizing registered with
  | nil => exact ⟨⟨[], by simp [batchCreatePartitions]⟩, fun _ member => .inl member, by simp, fun distinct => distinct⟩
  | cons input partitions ih =>
      rw [batchCreatePartitions]
      split
      · rename_i known
        obtain ⟨⟨new, whole⟩, origin, all, distinct⟩ := ih registered
        refine ⟨⟨new, whole⟩, fun partition member => ?_, ?_, distinct⟩
        · cases origin partition member with
          | inl earlier => exact .inl earlier
          | inr new =>
              obtain ⟨other, inside, rest⟩ := new
              exact .inr ⟨other, List.mem_cons_of_mem _ inside, rest⟩
        · obtain ⟨partition, member, same⟩ := List.any_eq_true.mp known
          refine List.forall_mem_cons.mpr ⟨⟨partition, ?_, of_decide_eq_true same⟩, all⟩
          dsimp only
          rw [whole]
          exact List.mem_append_left _ member
      · rename_i unknown
        have fresh : ∀ known ∈ registered, known.values ≠ input.values := by simpa using unknown
        obtain ⟨⟨new, whole⟩, origin, all, distinct⟩ := ih (registered ++ [created table input])
        refine ⟨⟨created table input :: new, by simp [whole]⟩, fun partition member => ?_, ?_, fun before => ?_⟩
        · cases origin partition member with
          | inl earlier =>
              cases List.mem_append.mp earlier with
              | inl before => exact .inl before
              | inr last =>
                  obtain rfl := List.mem_singleton.mp last
                  exact .inr ⟨input, List.mem_cons_self, rfl, fresh⟩
          | inr new =>
              obtain ⟨other, inside, same, unknown⟩ := new
              exact .inr ⟨other, List.mem_cons_of_mem _ inside, same,
                fun known member => unknown known (List.mem_append_left _ member)⟩
        · refine List.forall_mem_cons.mpr ⟨⟨created table input, ?_, rfl⟩, all⟩
          rw [whole]
          simp
        · apply distinct
          rw [List.map_append, List.nodup_append]
          refine ⟨before, by simp, ?_⟩
          simpa [created] using fresh

end Registration

section Row

variable {Value : Type} {hive : HivePartitioning} {casts : KeyCasts Value} {table : GlueTableInfo}
  {columns : List PartitionColumn} {row : List (Option Value)} {location : Text} {byPosition : Bool}
  {planned : List (PlannedPartition Value)} {directory : Text}

/-- The key values of a row are of the columns' types. -/
def FaithfulRow (casts : KeyCasts Value) (columns : List PartitionColumn) (row : List (Option Value)) : Prop :=
  List.Forall₂ (fun column value => ∀ v, value = some v → casts.Faithful column.2 v) columns row

/-- No value of the row is spelled like NULL. -/
def SpelledRow (casts : KeyCasts Value) (columns : List PartitionColumn) (row : List (Option Value)) : Prop :=
  List.Forall₂ (fun column value => ∀ v, value = some v →
    GlueTypes.partitionValueIsNull (casts.toText v) column.2 = false) columns row

/-- What is no spelling of NULL for the check is none for the scan. -/
theorem partitionValueIsNull_of_check {type : LogicalType} {v : Value}
    (h : readsBackAsNull casts type (some v) = false) :
    GlueTypes.partitionValueIsNull (casts.toText v) type = false := by
  have folded : lower "NULL".toList = "null".toList := by decide +kernel
  have null : ciEquals (casts.toText v) "NULL" = decide (lower (casts.toText v) = "null".toList) := by
    rw [ciEquals, folded]
  unfold GlueTypes.partitionValueIsNull
  rw [null]
  exact h

theorem nullValueCheck_path {index : Nat} {column : PartitionColumn} {check : PathCheck Value}
    (h : nullValueCheck casts table index column = some check) : check.path = .error (nullValueError table column) := by
  unfold nullValueCheck at h
  split_ifs at h
  cases h
  rfl

/-- A row that passes the checks for NULL has no value spelled like it. -/
theorem spelled_of_checks (faithful : FaithfulRow casts columns row)
    (passes : ∀ check ∈ nullValueChecks casts table columns, check.applies row = false) :
    SpelledRow casts columns row := by
  apply List.forall₂_iff_get.mpr
  refine ⟨faithful.length_eq, fun index inside inside' v here => ?_⟩
  have own := (List.forall₂_iff_get.mp faithful).2 index inside inside' v here
  have at_ : row[index]? = some (some v) := by
    rw [List.getElem?_eq_getElem inside']
    exact congrArg some here
  have member : (columns.get ⟨index, inside⟩, index) ∈ columns.zipIdx :=
    List.mk_mem_zipIdx_iff_getElem?.mpr (List.getElem?_eq_getElem inside)
  cases exempt : !(columns.get ⟨index, inside⟩).2.same .varchar && !(columns.get ⟨index, inside⟩).2.same .blob with
  | true =>
      rw [Bool.and_eq_true, Bool.not_eq_true', Bool.not_eq_true'] at exempt
      exact own.spelled exempt.1 exempt.2
  | false =>
      obtain ⟨check, checked, applies⟩ : ∃ check,
          nullValueCheck casts table index (columns.get ⟨index, inside⟩) = some check ∧
            check.applies row = readsBackAsNull casts (columns.get ⟨index, inside⟩).2 row[index]?.join :=
        ⟨_, by rw [nullValueCheck, exempt]; rfl, rfl⟩
      have passed := passes check (List.mem_filterMap.mpr ⟨_, member, checked⟩)
      rw [applies, at_] at passed
      exact partitionValueIsNull_of_check passed

/-- The row's texts are values of the keys again, and the row's own. -/
theorem keyValues_canonical
    (keys : List.Forall₂ (fun (key : GlueColumn) (column : PartitionColumn) => ciEquals column.1 key.name = true)
      table.partitionKeys columns) (faithful : FaithfulRow casts columns row) (spelled : SpelledRow casts columns row) :
    ∃ back, keyValues casts table columns (row.map (canonicalValue casts)) = .ok back ∧
      List.Forall₂ (fun value own => casts.notDistinct value own = true) row back := by
  unfold keyValues
  generalize table.partitionKeys = tableKeys at keys
  induction keys generalizing row with
  | nil =>
      cases faithful
      exact ⟨[], rfl, .nil⟩
  | @cons key column _ _ _ _ ih =>
      cases faithful with
      | cons here later =>
          cases spelled with
          | cons own rest =>
              rename_i value values
              obtain ⟨back, all, same⟩ := ih later rest
              have first : ∃ one, GlueTypes.partitionValue casts.toValueCasts key.name (canonicalValue casts value)
                  column.2 = .ok one ∧ casts.notDistinct value one = true := by
                cases value with
                | none => exact ⟨none, by simp [GlueTypes.partitionValue, GlueTypes.partitionValueIsNull, canonicalValue], rfl⟩
                | some v =>
                    obtain ⟨one, reads, equal⟩ := (here v rfl).reads
                    refine ⟨some one, ?_, equal⟩
                    rw [GlueTypes.partitionValue, canonicalValue, own v rfl, if_neg (by simp)]
                    split at reads
                    · rename_i text
                      cases reads
                      rw [if_pos text]
                    · rename_i text
                      rw [if_neg text, reads]
              obtain ⟨one, reads, equal⟩ := first
              refine ⟨one :: back, ?_, .cons equal same⟩
              simp only [List.map_cons, List.zip_cons_cons, List.mapM_cons, bind_eq_ok, pure_eq_ok]
              exact ⟨one, reads, back, all, rfl⟩

/-- A row is written to the location of its partition where that is not canonical,
otherwise to its hive directory, and then no check applies to it. -/
theorem evaluate_eq_ok
    (h : evaluate (partitionPath hive casts table location columns byPosition planned) row = .ok directory) :
    (∃ partition ∈ planned, partition.isCanonical hive casts table location columns byPosition = false ∧
        partition.matchesRow casts row = true ∧ partition.path table location byPosition = .ok directory) ∨
      directory = hivePath hive casts columns row ∧
        ∀ check ∈ (partitionPath hive casts table location columns byPosition planned).checks,
          check.applies row = false := by
  unfold evaluate at h
  split at h
  · rename_i check found
    have applies := List.find?_some found
    have member := List.mem_of_find?_eq_some found
    simp only [partitionPath, List.mem_append, List.mem_map] at member
    obtain (null | ⟨partition, own, rfl⟩) | ⟨custom, -, rfl⟩ := member
    · obtain ⟨⟨column, index⟩, -, known⟩ := List.mem_filterMap.mp null
      rw [nullValueCheck_path known] at h
      cases h
    · obtain ⟨inside, different⟩ := List.mem_filter.mp own
      exact .inl ⟨partition, inside, by simpa using different, applies, h⟩
    · cases h
  · rename_i none
    cases h
    refine .inr ⟨rfl, fun check member => ?_⟩
    simpa using List.find?_eq_none.mp none check member

/-- The location rows of a partition that is not canonical are written to. -/
theorem path_eq_ok {partition : PlannedPartition Value} (h : partition.path table location byPosition = .ok directory) :
    partition.mismatch table byPosition = none ∧
      (relativePartitionPath location partition.partition.location).2 = true ∧
      ((relativePartitionPath location partition.partition.location).1 = [] ∧
          directory = partition.partition.location ∨
        (relativePartitionPath location partition.partition.location).1 ≠ [] ∧
          directory = (relativePartitionPath location partition.partition.location).1) := by
  unfold PlannedPartition.path at h
  dsimp only at h
  split at h
  · cases h
  · rename_i matching
    split_ifs at h with refused empty
    · cases h
      exact ⟨matching, by simpa using refused, .inl ⟨empty, rfl⟩⟩
    · cases h
      exact ⟨matching, by simpa using refused, .inr ⟨empty, rfl⟩⟩

theorem SpelledRow.plain (spelled : SpelledRow casts columns row) :
    ∀ value ∈ row, ∀ v, value = some v → casts.toText v ≠ defaultPartitionName := by
  induction spelled with
  | nil => simp
  | cons here _ ih =>
      apply List.forall_mem_cons.mpr ⟨fun v same default => ?_, ih⟩
      have null := here v same
      simp [GlueTypes.partitionValueIsNull, default] at null

theorem SpelledRow.hivePath (spelled : SpelledRow casts columns row) :
    GlueHiveInsert.hivePath hive casts columns row =
      hivePartitionDirectory hive (columns.map (·.1)) (row.map (canonicalValue casts)) :=
  hivePath_canonical spelled.plain

/-- Rows with one hive directory register the same values. -/
theorem SpelledRow.texts_eq {other : List (Option Value)} (spelled : SpelledRow casts columns row)
    (length : other.length = columns.length)
    (same : GlueHiveInsert.hivePath hive casts columns other = GlueHiveInsert.hivePath hive casts columns row) :
    other.map (canonicalValue casts) = row.map (canonicalValue casts) :=
  canonical_of_hivePath length (by simpa using spelled.length_eq.symm) (same.trans spelled.hivePath)

theorem customDirectory_eq_some {partition : PlannedPartition Value} :
    partition.customDirectory hive casts table location columns byPosition = some directory ↔
      partition.isCanonical hive casts table location columns byPosition = false ∧
        partition.mismatch table byPosition = none ∧
        relativePartitionPath location partition.partition.location = (directory, true) ∧ directory ≠ [] := by
  unfold PlannedPartition.customDirectory
  generalize relativePartitionPath location partition.partition.location = relative
  obtain ⟨path, writable⟩ := relative
  dsimp only
  cases partition.isCanonical hive casts table location columns byPosition <;> cases writable <;>
    by_cases matching : partition.mismatch table byPosition = none <;> by_cases empty : path = [] <;>
    simp [matching, empty]
  all_goals rintro rfl
  all_goals exact empty

theorem isCanonical_eq_true {partition : PlannedPartition Value} :
    partition.isCanonical hive casts table location columns byPosition = true ↔
      partition.mismatch table byPosition = none ∧
        relativePartitionPath location partition.partition.location =
          (hivePartitionDirectory hive (columns.map (·.1)) (partition.canonicalValues casts), true) ∧
        partition.partition.values = partition.canonicalValues casts := by
  unfold PlannedPartition.isCanonical
  simp [Prod.ext_iff, and_assoc]

theorem plannedPartition_eq_ok {partition : GluePartitionInfo} {cast : PlannedPartition Value} :
    plannedPartition casts table columns partition = .ok cast ↔ cast.partition = partition ∧
      partition.values.length = columns.length ∧ keyValues casts table columns partition.values = .ok cast.values := by
  unfold plannedPartition
  split
  · rename_i differs
    simp [differs]
  · rename_i same
    rw [not_not] at same
    simp only [bind_eq_ok, pure_eq_ok, same, true_and]
    constructor
    · rintro ⟨values, known, rfl⟩
      exact ⟨rfl, known⟩
    · rintro ⟨rfl, known⟩
      exact ⟨cast.values, known, rfl⟩

/-- No check applies to the row: it is written to its hive directory. -/
structure Unchecked (hive : HivePartitioning) (casts : KeyCasts Value) (table : GlueTableInfo) (location : Text)
    (columns : List PartitionColumn) (byPosition : Bool) (planned : List (PlannedPartition Value))
    (row : List (Option Value)) : Prop where
  spelled : SpelledRow casts columns row
  /-- Every partition of the row's values is where an INSERT would register it. -/
  canonical : ∀ partition ∈ planned, partition.matchesRow casts row = true →
    partition.isCanonical hive casts table location columns byPosition = true
  elsewhere : ∀ partition ∈ planned,
    partition.customDirectory hive casts table location columns byPosition ≠ some (hivePath hive casts columns row)

theorem Unchecked.of_checks (faithful : FaithfulRow casts columns row)
    (passes : ∀ check ∈ (partitionPath hive casts table location columns byPosition planned).checks,
      check.applies row = false) :
    Unchecked hive casts table location columns byPosition planned row := by
  simp only [partitionPath, List.mem_append, List.mem_map, or_imp, forall_and] at passes
  obtain ⟨⟨null, own⟩, custom⟩ := passes
  refine ⟨spelled_of_checks faithful null, fun partition member same => ?_, fun partition member there => ?_⟩
  · by_contra different
    have passed := own _ ⟨partition, List.mem_filter.mpr ⟨member, by simpa using different⟩, rfl⟩
    dsimp only at passed
    rw [same] at passed
    cases passed
  · have passed := custom _ ⟨_, List.mem_filterMap.mpr ⟨partition, member, Option.map_eq_some_iff.mpr ⟨_, there, rfl⟩⟩, rfl⟩
    simp [customCheck] at passed

/-- The directories kept for the registration are those of planned partitions. -/
theorem lookup_partitionDirectories {values : List Text}
    (h : (partitionPath hive casts table location columns byPosition planned).partitionDirectories.lookup
      (location ++ ['/'] ++ directory) = some values) :
    ∃ partition ∈ planned, partition.partition.values = values ∧
      partition.customDirectory hive casts table location columns byPosition = some directory := by
  obtain ⟨before, after, whole, -⟩ := List.lookup_eq_some_iff.mp h
  have member : (location ++ ['/'] ++ directory, values) ∈
      (partitionPath hive casts table location columns byPosition planned).partitionDirectories := by
    rw [whole]
    simp
  obtain ⟨⟨other, values'⟩, custom, same⟩ := List.mem_map.mp member
  obtain ⟨partition, inside, known⟩ := List.mem_filterMap.mp custom
  obtain ⟨other', here, pair⟩ := Option.map_eq_some_iff.mp known
  cases pair
  simp only [Prod.mk.injEq, List.append_cancel_left_eq] at same
  exact ⟨partition, inside, same.2, same.1 ▸ here⟩

theorem exists_lookup {partition : PlannedPartition Value} (member : partition ∈ planned)
    (custom : partition.customDirectory hive casts table location columns byPosition = some directory) :
    ∃ values, (partitionPath hive casts table location columns byPosition planned).partitionDirectories.lookup
      (location ++ ['/'] ++ directory) = some values := by
  rw [← Option.isSome_iff_exists, Option.isSome_iff_ne_none]
  intro none
  have here := List.lookup_eq_none_iff.mp none (location ++ ['/'] ++ directory, partition.partition.values)
    (List.mem_map.mpr ⟨(directory, partition.partition.values),
      List.mem_filterMap.mpr ⟨partition, member, by simp [custom]⟩, rfl⟩)
  simp at here

variable {isRelative : Text → Bool} {name file : Text}

theorem writtenFile_eq_ok {path : PartitionPath Value} (h : writtenFile location isRelative path row name = .ok file) :
    ∃ directory, evaluate path row = .ok directory ∧ isRelative directory = true ∧
      file = location ++ ['/'] ++ directory ++ ['/'] ++ name := by
  obtain ⟨directory, evaluated, h⟩ := bind_eq_ok.mp h
  split at h
  · rename_i relative
    cases h
    exact ⟨directory, evaluated, relative, rfl⟩
  · cases h

/-- A row that is written: to the directory of its partition at another location than
the canonical one, or to its hive directory. -/
theorem written_cases (faithful : FaithfulRow casts columns row)
    (foreign : ∀ partition ∈ planned, (relativePartitionPath location partition.partition.location).1 = [] →
      isRelative partition.partition.location = false)
    (written : writtenFile location isRelative (partitionPath hive casts table location columns byPosition planned)
      row name = .ok file) :
    (∃ partition ∈ planned, ∃ directory,
        partition.isCanonical hive casts table location columns byPosition = false ∧
        partition.matchesRow casts row = true ∧
        partition.customDirectory hive casts table location columns byPosition = some directory ∧
        relativePartitionPath location partition.partition.location = (directory, true) ∧ directory ≠ [] ∧
        file = location ++ ['/'] ++ directory ++ ['/'] ++ name) ∨
      Unchecked hive casts table location columns byPosition planned row ∧
        file = location ++ ['/'] ++ hivePath hive casts columns row ++ ['/'] ++ name := by
  obtain ⟨directory, evaluated, relative, rfl⟩ := writtenFile_eq_ok written
  cases evaluate_eq_ok evaluated with
  | inl own =>
      obtain ⟨partition, member, different, same, path⟩ := own
      obtain ⟨matching, writable, outside | inside⟩ := path_eq_ok path
      · rw [outside.2, foreign partition member outside.1] at relative
        cases relative
      · have there : relativePartitionPath location partition.partition.location = (directory, true) :=
          Prod.ext inside.2.symm writable
        have nonempty : directory ≠ [] := inside.2 ▸ inside.1
        have custom := customDirectory_eq_some.mpr ⟨different, matching, there, nonempty⟩
        exact .inl ⟨partition, member, directory, different, same, custom, there, nonempty, rfl⟩
  | inr unchecked =>
      obtain ⟨rfl, passes⟩ := unchecked
      exact .inr ⟨.of_checks faithful passes, rfl⟩

end Row

section Inserted

variable {Value : Type} {hive : HivePartitioning} {casts : KeyCasts Value} {table : GlueTableInfo}
  {columns : List PartitionColumn} {isRelative : Text → Bool} {existing registered : List GluePartitionInfo}
  {path : PartitionPath Value} {rows : List (List (Option Value) × Text)} {row : List (Option Value)}
  {name file directory : Text}

/-- Where the copy writes: the table's location without trailing slashes. -/
def copyTarget (table : GlueTableInfo) : Text := rtrim table.location '/'

def columnsByPosition (table : GlueTableInfo) : Bool := table.getFileFormat = .ok .csv

/-- An INSERT of rows, each into a file of a name of its own, that went through while
no other client wrote. -/
structure Inserted (hive : HivePartitioning) (casts : KeyCasts Value) (table : GlueTableInfo)
    (columns : List PartitionColumn) (isRelative : Text → Bool) (existing : List GluePartitionInfo)
    (path : PartitionPath Value) (rows : List (List (Option Value) × Text)) (registered : List GluePartitionInfo) :
    Prop where
  keyed : table.partitionKeys ≠ []
  bound : ∃ rowColumns, partitionColumns table rowColumns = .ok columns
  valuesDistinct : (existing.map (·.values)).Nodup
  locationsDistinct : (existing.map fun partition => comparableLocation partition.location).Nodup
  planned : createPartitionPath hive casts table (copyTarget table) columns (some existing) = .ok path
  /-- The copy rejects a partition path that is not below its target. -/
  foreign : ∀ partition ∈ existing, (relativePartitionPath (copyTarget table) partition.location).1 = [] →
    isRelative partition.location = false
  faithful : ∀ row ∈ rows, FaithfulRow casts columns row.1
  named : ∀ row ∈ rows, row.2 ≠ [] ∧ '/' ∉ row.2
  finalized : ∃ files iterate,
    rows.mapM (fun row => writtenFile (copyTarget table) isRelative path row.1 row.2) = .ok files ∧
      (∀ partitions, (iterate partitions).Perm partitions) ∧
      finalize hive table path iterate existing files = .ok registered

/-- Reading finds the file in the one partition registered at the deepest location
that holds it, and its values are the row's. -/
def ReadsBack (casts : KeyCasts Value) (table : GlueTableInfo) (columns : List PartitionColumn)
    (reading : HiveListing) (file : Text) (row : List (Option Value)) : Prop :=
  ∃ index, reading.IsDeepest (comparableLocation file) (reading.locationOf index) ∧ ¬reading.IsShared index ∧
    ∃ values, keyValues casts table columns (reading.partition index).values = .ok values ∧
      List.Forall₂ (fun value own => casts.notDistinct value own = true) row values

/-- Every partition of the row's values is where an INSERT would register it, and the
row's hive directory is the location of a partition whose columns differ from the
table's. -/
def Diverted (hive : HivePartitioning) (casts : KeyCasts Value) (table : GlueTableInfo)
    (columns : List PartitionColumn) (existing : List GluePartitionInfo) (row : List (Option Value)) : Prop :=
  (∀ partition ∈ existing, ∀ cast : PlannedPartition Value, plannedPartition casts table columns partition = .ok cast →
      cast.matchesRow casts row = true →
        cast.isCanonical hive casts table (copyTarget table) columns (columnsByPosition table) = true) ∧
    ∃ partition ∈ existing, partition.findColumnTypeMismatch table.columns (columnsByPosition table) ≠ none ∧
      relativePartitionPath (copyTarget table) partition.location = (hivePath hive casts columns row, true)

/-- The location of a directory below the table, compared. -/
theorem comparable_directory (h : IsDirectory directory) :
    comparableLocation (copyTarget table ++ ['/'] ++ directory) =
      comparableLocation (copyTarget table) ++ '/' :: directory := by
  rw [List.append_assoc]
  exact h.comparable (Segments.trimEnd_last table.location)

/-- The columns are those of the keys. -/
theorem columns_keys {rowColumns : List (Text × LogicalType)} (bound : partitionColumns table rowColumns = .ok columns) :
    List.Forall₂ (fun (key : GlueColumn) (column : PartitionColumn) => ciEquals column.1 key.name = true)
      table.partitionKeys columns := by
  apply List.Forall₂.imp _ (mapM_eq_ok.mp bound)
  intro key column found
  split at found
  · rename_i here
    cases found
    simpa using List.find?_some here
  · cases found

variable (inserted : Inserted hive casts table columns isRelative existing path rows registered)
include inserted

theorem Inserted.keys : List.Forall₂ (fun (key : GlueColumn) (column : PartitionColumn) =>
    ciEquals column.1 key.name = true) table.partitionKeys columns := by
  obtain ⟨rowColumns, bound⟩ := inserted.bound
  exact columns_keys bound

theorem Inserted.columns_ne_nil : columns ≠ [] := by
  intro none
  have length := inserted.keys.length_eq
  rw [none] at length
  exact inserted.keyed (List.length_eq_zero_iff.mp length)

/-- The path is that of the existing partitions, each cast. -/
theorem Inserted.casts_planned : ∃ planned : List (PlannedPartition Value),
    path = partitionPath hive casts table (copyTarget table) columns (columnsByPosition table) planned ∧
      (∀ partition ∈ existing, ∃ cast ∈ planned, plannedPartition casts table columns partition = .ok cast) ∧
      ∀ cast ∈ planned, ∃ partition ∈ existing, plannedPartition casts table columns partition = .ok cast := by
  have planned := inserted.planned
  simp only [createPartitionPath, bind_eq_ok, pure_eq_ok] at planned
  obtain ⟨format, formatted, planned, all, rfl⟩ := planned
  have position : decide (format = .csv) = columnsByPosition table := by simp [columnsByPosition, formatted]
  rw [position]
  refine ⟨planned, rfl, fun partition member => ?_, fun cast member => mem_of_mapM all member⟩
  obtain ⟨index, here⟩ := List.mem_iff_getElem?.mp member
  have at_ := getElem?_mapM all index
  rw [here] at at_
  obtain ⟨cast, known, same⟩ := Option.map_eq_some_iff.mp at_
  exact ⟨cast, List.mem_of_getElem? known, same.symm⟩

/-- What the INSERT registers: partitions that exist, at their own directories, and
the hive directories of the rows no check applies to, with their texts. -/
theorem Inserted.inputs {planned : List (PlannedPartition Value)}
    (pathOf : path = partitionPath hive casts table (copyTarget table) columns (columnsByPosition table) planned)
    (origin : ∀ cast ∈ planned, ∃ partition ∈ existing, plannedPartition casts table columns partition = .ok cast) :
    ∃ inputs, registered = (batchCreatePartitions table inputs existing).1 ∧
      (∀ input ∈ inputs,
        (∃ directory, (∃ cast ∈ planned, cast.customDirectory hive casts table (copyTarget table) columns
            (columnsByPosition table) = some directory) ∧ (∃ known ∈ existing, known.values = input.values) ∧
            input.location = copyTarget table ++ ['/'] ++ directory) ∨
          ∃ other ∈ rows,
            Unchecked hive casts table (copyTarget table) columns (columnsByPosition table) planned other.1 ∧
              input.values = other.1.map (canonicalValue casts) ∧
              input.location = copyTarget table ++ ['/'] ++ hivePath hive casts columns other.1) ∧
      ∀ row ∈ rows, ∀ file, writtenFile (copyTarget table) isRelative path row.1 row.2 = .ok file →
        ∃ input ∈ inputs, input.location = directoryOf file := by
  obtain ⟨files, iterate, written, order, finalized⟩ := inserted.finalized
  unfold finalize at finalized
  split at finalized
  · rename_i nothing
    cases finalized
    obtain keyless | none := nothing
    · exact absurd keyless inserted.keyed
    · refine ⟨[], rfl, by simp, fun row member file here => ?_⟩
      rw [none] at written
      obtain ⟨index, at_⟩ := List.mem_iff_getElem?.mp member
      have missing := getElem?_mapM written index
      simp [at_] at missing
  · obtain ⟨inputs, collected, done⟩ := bind_eq_ok.mp finalized
    obtain ⟨-, from_, all⟩ := registrations_spec collected
    refine ⟨iterate inputs, ?_, fun input inside => ?_, fun row member file here => ?_⟩
    · dsimp only at done
      split at done
      · exact (pure_eq_ok.mp done).symm
      · cases done
    · obtain none | ⟨file, fileMember, registered⟩ := from_ input ((order inputs).mem_iff.mp inside)
      · cases none
      obtain ⟨⟨row, name⟩, rowMember, writtenHere⟩ := mem_of_mapM written fileMember
      have faithful := inserted.faithful _ rowMember
      have named := inserted.named _ rowMember
      rw [pathOf] at writtenHere registered
      have foreign : ∀ cast ∈ planned, (relativePartitionPath (copyTarget table) cast.partition.location).1 = [] →
          isRelative cast.partition.location = false := by
        intro cast castMember
        obtain ⟨partition, here, known⟩ := origin cast castMember
        rw [(plannedPartition_eq_ok.mp known).1]
        exact inserted.foreign partition here
      obtain ⟨cast, castMember, directory, -, -, custom, -, -, rfl⟩ | ⟨unchecked, rfl⟩ :=
        written_cases faithful foreign writtenHere
      · obtain ⟨values, known⟩ := exists_lookup castMember custom
        have tracked := known
        rw [← @directoryOf_file (copyTarget table ++ ['/'] ++ directory) _ named.2] at tracked
        rw [registration_known tracked] at registered
        obtain ⟨owner, ownerMember, same, -⟩ := lookup_partitionDirectories known
        obtain ⟨partition, here, ownerCast⟩ := origin owner ownerMember
        rw [(plannedPartition_eq_ok.mp ownerCast).1] at same
        cases registered
        exact .inl ⟨directory, ⟨cast, castMember, custom⟩, ⟨partition, here, same⟩, directoryOf_file named.2⟩
      · have untracked : (partitionPath hive casts table (copyTarget table) columns (columnsByPosition table)
            planned).partitionDirectories.lookup
              (copyTarget table ++ ['/'] ++ hivePath hive casts columns row) = none := by
          by_contra some
          obtain ⟨values, known⟩ := Option.ne_none_iff_exists'.mp some
          obtain ⟨owner, ownerMember, -, custom⟩ := lookup_partitionDirectories known
          exact unchecked.elsewhere owner ownerMember custom
        rw [registration_hive named.2 inserted.keys faithful.length_eq.symm untracked] at registered
        cases registered
        exact .inr ⟨(row, name), rowMember, unchecked, rfl, rfl⟩
    · obtain ⟨index, at_⟩ := List.mem_iff_getElem?.mp member
      have result := getElem?_mapM written index
      rw [at_, Option.map_some, here] at result
      obtain ⟨other, fileAt, same⟩ := Option.map_eq_some_iff.mp result
      cases same
      obtain ⟨input, inside, located⟩ := all file (List.mem_of_getElem? fileAt)
      exact ⟨input, (order inputs).mem_iff.mpr inside, located⟩

omit inserted in
theorem hivePath_comparable (keyed : columns ≠ []) (length : row.length = columns.length) {location : Text} :
    relativePartitionPath (copyTarget table) location = (hivePath hive casts columns row, true) ↔
      comparableLocation location = comparableLocation (copyTarget table) ++ '/' :: hivePath hive casts columns row := by
  have directory : IsDirectory (hivePath hive casts columns row) := hivePath_isDirectory keyed length
  constructor
  · exact fun here => (relativePartitionPath_iff.mp ⟨here, directory.ne_nil⟩).2
  · exact fun here => (relativePartitionPath_iff.mpr ⟨directory, here⟩).1

theorem Inserted.eq_of_location {partition other : GluePartitionInfo} (member : partition ∈ existing)
    (member' : other ∈ existing)
    (same : comparableLocation partition.location = comparableLocation other.location) : partition = other :=
  List.inj_on_of_nodup_map inserted.locationsDistinct member member' same

/-- A registered partition at a directory of the table existed before, or was
registered for a row no check applies to. -/
theorem Inserted.located {planned : List (PlannedPartition Value)}
    (pathOf : path = partitionPath hive casts table (copyTarget table) columns (columnsByPosition table) planned)
    (origin : ∀ cast ∈ planned, ∃ partition ∈ existing, plannedPartition casts table columns partition = .ok cast)
    {partition : GluePartitionInfo} (member : partition ∈ registered) :
    partition ∈ existing ∨ ∃ other,
      Unchecked hive casts table (copyTarget table) columns (columnsByPosition table) planned other ∧
        partition.values = other.map (canonicalValue casts) ∧
        comparableLocation partition.location =
          comparableLocation (copyTarget table) ++ '/' :: hivePath hive casts columns other := by
  obtain ⟨inputs, result, cases_, -⟩ := inserted.inputs pathOf origin
  rw [result] at member
  obtain ⟨-, created, -, -⟩ := @batchCreatePartitions_spec table inputs existing
  obtain before | ⟨input, inside, rfl, unknown⟩ := created partition member
  · exact .inl before
  · obtain ⟨directory, -, ⟨known, here, same⟩, -⟩ | ⟨other, -, unchecked, texts, location⟩ := cases_ input inside
    · exact absurd same (unknown known here)
    · refine .inr ⟨other.1, unchecked, texts, ?_⟩
      have directory := @hivePath_isDirectory _ hive casts _ _ inserted.columns_ne_nil
        unchecked.spelled.length_eq.symm
      exact (congrArg comparableLocation location).trans (comparable_directory directory)

/-- The texts of a row no check applies to are registered, at its hive directory. -/
theorem Inserted.registered_texts {planned : List (PlannedPartition Value)}
    (pathOf : path = partitionPath hive casts table (copyTarget table) columns (columnsByPosition table) planned)
    (all : ∀ partition ∈ existing, ∃ cast ∈ planned, plannedPartition casts table columns partition = .ok cast)
    (origin : ∀ cast ∈ planned, ∃ partition ∈ existing, plannedPartition casts table columns partition = .ok cast)
    (member : (row, name) ∈ rows)
    (written : writtenFile (copyTarget table) isRelative path row name = .ok file)
    (unchecked : Unchecked hive casts table (copyTarget table) columns (columnsByPosition table) planned row)
    (fileAt : directoryOf file = copyTarget table ++ ['/'] ++ hivePath hive casts columns row) :
    ∃ partition ∈ registered, partition.values = row.map (canonicalValue casts) ∧
      comparableLocation partition.location =
        comparableLocation (copyTarget table) ++ '/' :: hivePath hive casts columns row := by
  have keyed := inserted.columns_ne_nil
  have length := unchecked.spelled.length_eq.symm
  obtain ⟨inputs, result, cases_, registers⟩ := inserted.inputs pathOf origin
  obtain ⟨input, inside, located⟩ := registers _ member file written
  rw [fileAt] at located
  have texts : input.values = row.map (canonicalValue casts) := by
    obtain ⟨directory, ⟨cast, castMember, custom⟩, -, location⟩ | ⟨other, -, unchecked', texts, location⟩ :=
      cases_ input inside
    · rw [located, List.append_cancel_left_eq] at location
      rw [← location] at custom
      exact absurd custom (unchecked.elsewhere cast castMember)
    · rw [located, List.append_cancel_left_eq] at location
      exact texts.trans (unchecked.spelled.texts_eq unchecked'.spelled.length_eq.symm location.symm)
  obtain ⟨-, -, known, -⟩ := @batchCreatePartitions_spec table inputs existing
  obtain ⟨partition, registeredHere, same⟩ := known input inside
  rw [← result] at registeredHere
  refine ⟨partition, registeredHere, same.trans texts, ?_⟩
  obtain before | ⟨other, unchecked', texts', location⟩ := inserted.located pathOf origin registeredHere
  · obtain ⟨cast, castMember, castOf⟩ := all partition before
    obtain ⟨back, reads, equal⟩ := keyValues_canonical inserted.keys (inserted.faithful _ member) unchecked.spelled
    obtain ⟨own, -, values⟩ := plannedPartition_eq_ok.mp castOf
    rw [same.trans texts, reads] at values
    cases values
    have canonical := unchecked.canonical cast castMember (decide_eq_true equal)
    obtain ⟨-, relative, spelledAs⟩ := isCanonical_eq_true.mp canonical
    rw [← spelledAs, own, same.trans texts, ← unchecked.spelled.hivePath] at relative
    exact (hivePath_comparable keyed length).mp relative
  · rw [location, unchecked'.spelled.hivePath, ← texts', same.trans texts, ← unchecked.spelled.hivePath]

section Reading

variable {reading : HiveListing} (reads : reading.partitions = registered)
include reads

omit inserted reads in
/-- Where the file of a row is read from. -/
theorem deepest_of_directory (plain : name ≠ [] ∧ '/' ∉ name) (allowed : IsDirectory directory) {index : reading.Index}
    (at_ : reading.locationOf index = comparableLocation (copyTarget table) ++ '/' :: directory) :
    reading.IsDeepest (comparableLocation (copyTarget table ++ ['/'] ++ directory ++ ['/'] ++ name))
      (reading.locationOf index) := by
  have untrimmed : (copyTarget table ++ '/' :: directory).getLast? ≠ some '/' := by
    obtain ⟨parts, some, plain, rfl⟩ := allowed
    have nonempty : join parts ['/'] ≠ [] := Segments.intercalate_ne_nil (IsDirectory.plain plain) some
    rw [List.append_cons, List.getLast?_append_of_ne_nil _ nonempty]
    exact Segments.intercalate_last (IsDirectory.plain plain)
  have whole : comparableLocation (copyTarget table ++ ['/'] ++ directory ++ ['/'] ++ name) =
      reading.locationOf index ++ '/' :: name := by
    have file := comparableLocation_below untrimmed plain.1 (fun opens => plain.2 (List.mem_of_head? opens))
      (fun closes => plain.2 (List.mem_of_getLast? closes))
    rw [at_, ← comparable_directory allowed]
    simpa using file
  rw [whole]
  refine ⟨⟨index, rfl⟩, by simp [at_], Segments.Below.append name, fun other _ holds => ?_⟩
  exact holds.length_le_of_plain plain.2

theorem Inserted.values_distinct : (reading.partitions.map (·.values)).Nodup := by
  obtain ⟨planned, pathOf, -, origin⟩ := inserted.casts_planned
  obtain ⟨inputs, result, -⟩ := inserted.inputs pathOf origin
  obtain ⟨-, -, -, distinct⟩ := @batchCreatePartitions_spec table inputs existing
  rw [reads, result]
  exact distinct inserted.valuesDistinct

theorem Inserted.eq_of_values {index other : reading.Index}
    (same : (reading.partition index).values = (reading.partition other).values) : index = other := by
  apply Fin.ext
  have distinct := inserted.values_distinct reads
  apply (List.Nodup.getElem_inj_iff distinct).mp
  · simpa [HiveListing.partition] using same
  · simp
  · simp

omit inserted in
theorem exists_index {partition : GluePartitionInfo} (member : partition ∈ registered) :
    ∃ index : reading.Index, reading.partition index = partition := by
  rw [← reads] at member
  obtain ⟨position, inside, same⟩ := List.mem_iff_getElem.mp member
  exact ⟨⟨position, inside⟩, same⟩

/-- A row written to its own partition at another location reads back. -/
theorem Inserted.readsBack_own {planned : List (PlannedPartition Value)}
    (pathOf : path = partitionPath hive casts table (copyTarget table) columns (columnsByPosition table) planned)
    (origin : ∀ cast ∈ planned, ∃ partition ∈ existing, plannedPartition casts table columns partition = .ok cast)
    (plain : name ≠ [] ∧ '/' ∉ name) {cast : PlannedPartition Value} (castMember : cast ∈ planned)
    (own : cast.matchesRow casts row = true)
    (custom : cast.customDirectory hive casts table (copyTarget table) columns (columnsByPosition table) =
      some directory) :
    ReadsBack casts table columns reading (copyTarget table ++ ['/'] ++ directory ++ ['/'] ++ name) row := by
  obtain ⟨-, -, relative, nonempty⟩ := customDirectory_eq_some.mp custom
  obtain ⟨partition, member, castOf⟩ := origin cast castMember
  obtain ⟨same, -, values⟩ := plannedPartition_eq_ok.mp castOf
  rw [same] at relative
  obtain ⟨allowed, location⟩ := relativePartitionPath_iff.mp ⟨relative, nonempty⟩
  have kept : partition ∈ registered := by
    obtain ⟨inputs, result, -⟩ := inserted.inputs pathOf origin
    obtain ⟨⟨new, whole⟩, -⟩ := @batchCreatePartitions_spec table inputs existing
    rw [result, whole]
    exact List.mem_append_left _ member
  obtain ⟨index, here⟩ := exists_index reads kept
  have at_ : reading.locationOf index = comparableLocation (copyTarget table) ++ '/' :: directory := by
    rw [HiveListing.locationOf, here, location]
  refine ⟨index, deepest_of_directory plain allowed at_, ?_, cast.values, by rw [here]; exact values,
    of_decide_eq_true own⟩
  rintro ⟨other, differs, sameLocation⟩
  apply differs
  apply inserted.eq_of_values reads
  have registeredHere : reading.partition other ∈ registered := reads ▸ List.getElem_mem other.isLt
  have located : comparableLocation (reading.partition other).location =
      comparableLocation (copyTarget table) ++ '/' :: directory := sameLocation.trans at_
  obtain before | ⟨row', unchecked, -, location'⟩ := inserted.located pathOf origin registeredHere
  · rw [here, inserted.eq_of_location before member (located.trans location.symm)]
  · -- the hive directory of another row is not the location of this partition
    rw [located, List.append_cancel_left_eq, List.cons.injEq] at location'
    rw [location'.2] at custom
    exact absurd custom (unchecked.elsewhere cast castMember)

/-- A row written to its hive directory reads back unless a partition whose columns
differ is registered there. -/
theorem Inserted.readsBack_hive {planned : List (PlannedPartition Value)}
    (pathOf : path = partitionPath hive casts table (copyTarget table) columns (columnsByPosition table) planned)
    (all : ∀ partition ∈ existing, ∃ cast ∈ planned, plannedPartition casts table columns partition = .ok cast)
    (origin : ∀ cast ∈ planned, ∃ partition ∈ existing, plannedPartition casts table columns partition = .ok cast)
    (member : (row, name) ∈ rows)
    (written : writtenFile (copyTarget table) isRelative path row name =
      .ok (copyTarget table ++ ['/'] ++ hivePath hive casts columns row ++ ['/'] ++ name))
    (unchecked : Unchecked hive casts table (copyTarget table) columns (columnsByPosition table) planned row) :
    ReadsBack casts table columns reading
        (copyTarget table ++ ['/'] ++ hivePath hive casts columns row ++ ['/'] ++ name) row ↔
      ∀ partition ∈ existing, relativePartitionPath (copyTarget table) partition.location =
          (hivePath hive casts columns row, true) →
        partition.findColumnTypeMismatch table.columns (columnsByPosition table) = none := by
  have plain := inserted.named _ member
  have keyed := inserted.columns_ne_nil
  have length := unchecked.spelled.length_eq.symm
  obtain ⟨own, registeredHere, texts, location⟩ :=
    inserted.registered_texts pathOf all origin member written unchecked (directoryOf_file plain.2)
  obtain ⟨index, here⟩ := exists_index reads registeredHere
  have at_ : reading.locationOf index =
      comparableLocation (copyTarget table) ++ '/' :: hivePath hive casts columns row := by
    rw [HiveListing.locationOf, here, location]
  have deepest := deepest_of_directory plain (hivePath_isDirectory keyed length) at_
  obtain ⟨back, readsOwn, equal⟩ := keyValues_canonical inserted.keys (inserted.faithful _ member) unchecked.spelled
  constructor
  · -- the partition registered there first, and the row's own one
    intro readsBack partition existingHere relative
    obtain ⟨found, deepest', alone, -⟩ := readsBack
    by_contra mismatch
    obtain ⟨cast, castMember, castOf⟩ := all partition existingHere
    obtain ⟨same, -, values⟩ := plannedPartition_eq_ok.mp castOf
    have differs : partition.values ≠ own.values := by
      intro equals
      rw [equals, texts, readsOwn] at values
      cases values
      have canonical := unchecked.canonical cast castMember (decide_eq_true equal)
      obtain ⟨matching, -⟩ := isCanonical_eq_true.mp canonical
      rw [PlannedPartition.mismatch, same] at matching
      exact mismatch matching
    have kept : partition ∈ registered := by
      obtain ⟨inputs, result, -⟩ := inserted.inputs pathOf origin
      obtain ⟨⟨new, whole⟩, -⟩ := @batchCreatePartitions_spec table inputs existing
      rw [result, whole]
      exact List.mem_append_left _ existingHere
    obtain ⟨first, firstHere⟩ := exists_index reads kept
    have foundAt : reading.locationOf found = reading.locationOf index := deepest'.unique deepest
    have firstAt : reading.locationOf first = reading.locationOf index := by
      rw [at_, HiveListing.locationOf, firstHere, (hivePath_comparable keyed length).mp relative]
    have two : first ≠ index := by
      rintro rfl
      exact differs (congrArg GluePartitionInfo.values (firstHere.symm.trans here))
    apply alone
    by_cases isFirst : first = found
    · exact ⟨index, fun equals => two (isFirst.trans equals.symm), foundAt.symm⟩
    · exact ⟨first, isFirst, firstAt.trans foundAt.symm⟩
  · intro matching
    refine ⟨index, deepest, ?_, back, by rw [here, texts]; exact readsOwn, equal⟩
    rintro ⟨other, differs, sameLocation⟩
    apply differs
    apply inserted.eq_of_values reads
    rw [here, texts]
    have otherHere : reading.partition other ∈ registered := reads ▸ List.getElem_mem other.isLt
    have located : comparableLocation (reading.partition other).location =
        comparableLocation (copyTarget table) ++ '/' :: hivePath hive casts columns row := sameLocation.trans at_
    obtain before | ⟨row', unchecked', texts', location'⟩ := inserted.located pathOf origin otherHere
    · obtain ⟨cast, castMember, castOf⟩ := all _ before
      obtain ⟨same, valuesLength, -⟩ := plannedPartition_eq_ok.mp castOf
      have relative := (hivePath_comparable keyed length).mpr located
      have none := matching _ before relative
      rw [← same] at relative none
      cases canonical : cast.isCanonical hive casts table (copyTarget table) columns (columnsByPosition table) with
      | true =>
          obtain ⟨-, relative', spelledAs⟩ := isCanonical_eq_true.mp canonical
          rw [← spelledAs, same] at relative'
          rw [same] at relative
          exact (canonical_of_hivePath length valuesLength (Prod.ext_iff.mp (relative.symm.trans relative')).1).symm
      | false =>
          have custom := customDirectory_eq_some.mpr
            ⟨canonical, none, relative, (hivePath_isDirectory keyed length).ne_nil⟩
          exact absurd custom (unchecked.elsewhere cast castMember)
    · rw [located, List.append_cancel_left_eq, List.cons.injEq] at location'
      rw [texts']
      exact unchecked.spelled.texts_eq unchecked'.spelled.length_eq.symm location'.2.symm

/-- A row that is written reads back as inserted exactly when it is not diverted into
the directory of a partition whose columns differ from the table's. -/
theorem Inserted.readsBack_iff (member : (row, name) ∈ rows)
    (written : writtenFile (copyTarget table) isRelative path row name = .ok file) :
    ReadsBack casts table columns reading file row ↔ ¬Diverted hive casts table columns existing row := by
  obtain ⟨planned, pathOf, all, origin⟩ := inserted.casts_planned
  have foreign : ∀ cast ∈ planned, (relativePartitionPath (copyTarget table) cast.partition.location).1 = [] →
      isRelative cast.partition.location = false := by
    intro cast castMember
    obtain ⟨partition, here, known⟩ := origin cast castMember
    rw [(plannedPartition_eq_ok.mp known).1]
    exact inserted.foreign partition here
  have writtenTo := written
  rw [pathOf] at writtenTo
  obtain ⟨cast, castMember, directory, different, own, custom, -, -, rfl⟩ | ⟨unchecked, rfl⟩ :=
    written_cases (inserted.faithful _ member) foreign writtenTo
  · refine iff_of_true
      (inserted.readsBack_own reads pathOf origin (inserted.named _ member) castMember own custom) ?_
    rintro ⟨canonical, -⟩
    obtain ⟨partition, here, castOf⟩ := origin cast castMember
    rw [canonical partition here cast castOf own] at different
    cases different
  · rw [inserted.readsBack_hive reads pathOf all origin member written unchecked]
    constructor
    · rintro matching ⟨-, partition, here, mismatch, relative⟩
      exact mismatch (matching partition here relative)
    · intro notDiverted partition here relative
      by_contra mismatch
      refine notDiverted ⟨fun partition here cast castOf own => ?_, partition, here, mismatch, relative⟩
      obtain ⟨cast', castMember, castOf'⟩ := all partition here
      rw [castOf] at castOf'
      cases castOf'
      exact unchecked.canonical cast castMember own

end Reading

end Inserted

section RenumberedDay

/-- The characters a path escapes, as far as the days below hold them. -/
def percentEscape (text : Text) : Text :=
  text.flatMap fun c =>
    if c = '%' then ['%', '2', '5'] else if c = '/' then ['%', '2', 'F'] else if c = '=' then ['%', '3', 'D'] else [c]

def percentUnescape : Text → Text
  | '%' :: '2' :: '5' :: rest => '%' :: percentUnescape rest
  | '%' :: '2' :: 'F' :: rest => '/' :: percentUnescape rest
  | '%' :: '3' :: 'D' :: rest => '=' :: percentUnescape rest
  | c :: rest => c :: percentUnescape rest
  | [] => []

theorem percentUnescape_percentEscape (text : Text) : percentUnescape (percentEscape text) = text := by
  induction text with
  | nil => rfl
  | cons c text ih =>
      rw [percentEscape, List.flatMap_cons, ← percentEscape]
      split_ifs with percent slash equals
      · simp [percentUnescape, ih, percent]
      · simp [percentUnescape, ih, slash]
      · simp [percentUnescape, ih, equals]
      · rw [List.singleton_append, percentUnescape, ih]
        all_goals simp_all

theorem percentEscape_plain (text : Text) : '/' ∉ percentEscape text ∧ '=' ∉ percentEscape text := by
  constructor <;> simp only [percentEscape, List.mem_flatMap, not_exists, not_and] <;> intro c _ <;> split_ifs <;>
    simp_all [eq_comm]

def percentHive : HivePartitioning where
  escape := percentEscape
  escapeValue := percentEscape
  unescape := percentUnescape
  normalizePath path := path
  joinPath location path := location ++ '/' :: path
  unescape_escape := percentUnescape_percentEscape
  unescape_escapeValue := percentUnescape_percentEscape
  unescape_default := by decide +kernel
  escape_plain := percentEscape_plain
  escapeValue_plain text := (percentEscape_plain text).1
  joinPath_plain _ _ _ _ _ _ _ := rfl

/-- Keys that are strings. -/
def textCasts : KeyCasts Text where
  ofText := id
  tryCastAs text _ := some text
  typeName _ := "VARCHAR"
  implicitCastCost _ _ := -1
  toText := id
  equals a b := a = b

def daysTable : GlueTableInfo where
  name := "events"
  schemaName := "db"
  location := "s3://bucket/events/"
  serdeLibrary := "org.apache.hadoop.hive.ql.io.parquet.serde.ParquetHiveSerDe"
  columns := [{ name := "id", type := "int" }]
  partitionKeys := [{ name := "day", type := "string" }]

/-- A partition renamed to another day after its files were written, when the column
was still a string. -/
def renamedPartition : GluePartitionInfo where
  values := ["7"]
  location := "s3://bucket/events/day=5"
  partitionColumns := [{ name := "id", type := "string" }]

def dayColumns : List PartitionColumn := [("day".toList, .varchar)]

/-- A partition path with a scheme or from the root is absolute. -/
def isRelativePath (path : Text) : Bool := !contains path "://" && !startsWith path "/"

def daysPath : PartitionPath Text :=
  partitionPath percentHive textCasts daysTable (copyTarget daysTable) dayColumns false
    [⟨renamedPartition, [some "7".toList]⟩]

def fifthDay : List (Option Text) := [some "5".toList]

def sixthDay : List (Option Text) := [some "6".toList]

def daysFiles : List Text := ["s3://bucket/events/day=5/a.parquet", "s3://bucket/events/day=6/b.parquet"]

def daysRegistered : List GluePartitionInfo := [renamedPartition,
  created daysTable ⟨["5"], "s3://bucket/events/day=5"⟩, created daysTable ⟨["6"], "s3://bucket/events/day=6"⟩]

def daysReading : HiveListing where
  scan := { tableName := "events", rootLocation := "s3://bucket/events", partitionKeys := ["day".toList] }
  partitions := daysRegistered
  fs := .ofObjects []
  db := ⟨fun _ => none⟩
  threads := 1

theorem daysInserted : Inserted percentHive textCasts daysTable dayColumns isRelativePath [renamedPartition] daysPath
    [(fifthDay, "a.parquet".toList), (sixthDay, "b.parquet".toList)] daysRegistered where
  keyed := by decide
  bound := ⟨[("id".toList, .integer), ("day".toList, .varchar)], rfl⟩
  valuesDistinct := by decide +kernel
  locationsDistinct := by decide +kernel
  planned := by
    have formatted : daysTable.getFileFormat = .ok .parquet := by decide +kernel
    have cast : plannedPartition textCasts daysTable dayColumns renamedPartition =
        .ok ⟨renamedPartition, [some "7".toList]⟩ :=
      plannedPartition_eq_ok.mpr ⟨rfl, rfl, by decide +kernel⟩
    rw [createPartitionPath, formatted]
    simp only [bind_eq_ok, List.mapM_cons, cast, List.mapM_nil]
    exact ⟨_, rfl, _, ⟨_, rfl, _, rfl, rfl⟩, rfl⟩
  foreign := by decide +kernel
  faithful := by
    have faithful : ∀ text, textCasts.Faithful .varchar text := fun text =>
      ⟨⟨text, rfl, decide_eq_true rfl⟩, (fun notText => by cases notText)⟩
    simp only [List.forall_mem_cons, List.not_mem_nil, false_imp_iff, implies_true, and_true]
    exact ⟨.cons (fun v _ => faithful v) .nil, .cons (fun v _ => faithful v) .nil⟩
  named := by decide +kernel
  finalized := by
    have collected : registrations percentHive daysTable daysPath.partitionDirectories daysFiles [] =
        .ok [⟨["5"], "s3://bucket/events/day=5"⟩, ⟨["6"], "s3://bucket/events/day=6"⟩] := by decide +kernel
    refine ⟨daysFiles, id, by decide +kernel, fun partitions => .refl partitions, ?_⟩
    rw [finalize, if_neg (by decide +kernel), collected]
    rfl

theorem fifthDay_written : writtenFile (copyTarget daysTable) isRelativePath daysPath fifthDay "a.parquet" =
    .ok "s3://bucket/events/day=5/a.parquet".toList := by decide +kernel

theorem sixthDay_written : writtenFile (copyTarget daysTable) isRelativePath daysPath sixthDay "b.parquet" =
    .ok "s3://bucket/events/day=6/b.parquet".toList := by decide +kernel

/-- The fifth day is written into the directory of the renamed partition. -/
theorem readsBack_diverted : ¬ ∀ (table : GlueTableInfo) (columns : List PartitionColumn)
    (existing registered : List GluePartitionInfo) (path : PartitionPath Text)
    (rows : List (List (Option Text) × Text)) (reading : HiveListing) (row : List (Option Text)) (name file : Text),
    Inserted percentHive textCasts table columns isRelativePath existing path rows registered →
      reading.partitions = registered → (row, name) ∈ rows →
      writtenFile (copyTarget table) isRelativePath path row name = .ok file →
        ReadsBack textCasts table columns reading file row := by
  intro all
  obtain ⟨index, deepest, alone, -⟩ := all _ _ _ _ _ _ daysReading _ _ _ daysInserted rfl (by simp) fifthDay_written
  have shared : ∀ index : daysReading.Index, index ≠ ⟨2, by decide⟩ → daysReading.IsShared index := by
    unfold HiveListing.IsShared
    decide +kernel
  have below : ¬Holds (daysReading.locationOf ⟨2, by decide⟩)
      (comparableLocation "s3://bucket/events/day=5/a.parquet".toList) := by
    unfold Holds Segments.Below
    decide +kernel
  by_cases sixth : index = ⟨2, by decide⟩
  · exact below (sixth ▸ deepest.holds)
  · exact alone (shared index sixth)

theorem readsBack_iff_sixthDay :
    ReadsBack textCasts daysTable dayColumns daysReading "s3://bucket/events/day=6/b.parquet".toList sixthDay := by
  apply (daysInserted.readsBack_iff rfl (by simp) sixthDay_written).mpr
  rintro ⟨-, diverting⟩
  revert diverting
  decide +kernel

end RenumberedDay

end GlueHiveInsert

end DuckGlue
