import DuckGlue.Lib.ColumnStatistics
import DuckGlue.Planning.PruningRun

/-! # Statistics of partition columns

The values of the partitions left after pruning are all the values a partition column
can have, so the planner gets bounds, NULL flags and a distinct count from them.
-/

namespace DuckGlue

/-- What `TableFunctionGetStatisticsInput` asks about. -/
structure StatisticsInput where
  /-- Absent where the index has no primary one. -/
  primaryIndex : Option ℕ
  hasChildren : Bool

/-- A partition key as a column of the scan. -/
structure StatisticsKey where
  column : ℕ
  keyIndex : ℕ
  type : LogicalType

namespace HiveListing

variable {Op Value Filter : Type} (executor : ExpressionExecutor Op Value Filter) (env : HiveListing)
  (domain : StatisticsDomain Value LogicalType)

/-- The key a column is, when it is a whole column of the table. -/
def statisticsKey (input : StatisticsInput) : Option StatisticsKey :=
  if input.hasChildren then none
  else do
    let column ← input.primaryIndex
    let name ← env.scan.names[column]?
    let type ← env.scan.types[column]?
    let keyIndex ← env.scan.getPartitionKeyIndex name
    return ⟨column, keyIndex, type⟩

/-- The loop over the partitions. A partition with fewer values than the table has keys, or a
value its type can not hold, ends it without statistics. -/
def mergeStatistics (key : StatisticsKey) : List env.Index → Option domain.Statistics → List (Option Value) →
    Option (Option domain.Statistics × List (Option Value))
  | [], result, distinctValues => some (result, distinctValues)
  | index :: indexes, result, distinctValues =>
      match env.keyValue executor (env.partition index) key.keyIndex key.type with
      | .error _ => none
      | .ok value =>
          let valueStats := domain.fromConstant key.type value
          let result := match result with
            | none => valueStats
            | some result => domain.merge result valueStats
          mergeStatistics key indexes (some result) (domain.insertValue distinctValues value)

/-- `HivePartitionStatistics`; `formatStatistics` is the format's own function. -/
def hivePartitionStatistics (formatStatistics : Option (StatisticsInput → Option domain.Statistics))
    (files : HiveMultiFileList env) (input : StatisticsInput) : Option domain.Statistics :=
  match env.statisticsKey input with
  | none => formatStatistics.bind (· input)
  | some key =>
      match env.mergeStatistics executor domain key files.indexes none [] with
      | some (some result, distinctValues) => some (domain.setDistinctCount result distinctValues.length)
      -- no partitions
      | some (none, _) => none
      | none => none

/-- A value `FinalizeBind` registers for a column of a file of one of the partitions. -/
def Emits (read : List env.Index) (column : ℕ) (value : Option Value) : Prop :=
  ∃ index ∈ read, ∃ localNames virtualColumn columnIndexes constants position columnIndex,
    env.finalizeBind executor (env.partition index) localNames virtualColumn columnIndexes = .ok constants ∧
      columnIndexes[position]? = some columnIndex ∧ columnIndex.id = .column column ∧ (position, value) ∈ constants

/-- Statistics that hold of what a scan of some of the partitions emits. -/
structure StatisticsSound (read : List env.Index) (column : ℕ) (statistics : domain.Statistics) : Prop where
  contains : ∀ value, env.Emits executor read column value → domain.Contains statistics value
  distinct : ∀ values : List (Option Value), (∀ value ∈ values, env.Emits executor read column value) →
    (values.Pairwise fun a b => domain.sameValue a b = false) → values.length ≤ domain.distinctCount statistics

/-- The partition has no value of the key, or one the type of the column can not hold. -/
def Unreadable (key : StatisticsKey) (index : env.Index) : Prop :=
  (env.partition index).values.length ≤ key.keyIndex ∨
    ∃ name text failed, env.scan.partitionKeys[key.keyIndex]? = some name ∧
      (env.partition index).values[key.keyIndex]? = some text ∧
      GlueTypes.partitionValue executor.casts name text key.type = .error failed

end HiveListing

namespace HiveListing

open Fallible

variable {Op Value Filter : Type} {executor : ExpressionExecutor Op Value Filter} {env : HiveListing}
  {domain : StatisticsDomain Value LogicalType} {key : StatisticsKey} {indexes : List env.Index}
  {result : Option domain.Statistics} {distinctValues : List (Option Value)}

/-- What is merged holds of the values of all partitions, and of what was merged before. -/
structure Merged (executor : ExpressionExecutor Op Value Filter) (key : StatisticsKey) (indexes : List env.Index)
    (result : Option domain.Statistics) (distinctValues : List (Option Value)) (merged : Option domain.Statistics)
    (values : List (Option Value)) : Prop where
  read : ∀ index ∈ indexes, ∃ value, env.keyValue executor (env.partition index) key.keyIndex key.type = .ok value ∧
    (∃ statistics, merged = some statistics ∧ domain.Contains statistics value) ∧
    ∃ member ∈ values, domain.sameValue value member = true
  before : ∀ statistics, result = some statistics → ∃ later, merged = some later ∧
    ∀ value, domain.Contains statistics value → domain.Contains later value
  grows : distinctValues ⊆ values

theorem mergeStatistics_merged {merged : Option domain.Statistics} {values : List (Option Value)}
    (done : env.mergeStatistics executor domain key indexes result distinctValues = some (merged, values)) :
    Merged executor key indexes result distinctValues merged values := by
  induction indexes generalizing result distinctValues with
  | nil =>
      cases done
      exact ⟨by simp, fun statistics here => ⟨statistics, here, fun _ contained => contained⟩, List.Subset.refl _⟩
  | cons index indexes ih =>
      rw [mergeStatistics] at done
      cases known : env.keyValue executor (env.partition index) key.keyIndex key.type with
      | error failed => rw [known] at done; cases done
      | ok value =>
          rw [known] at done
          have rest := ih done
          obtain ⟨later, same, holds⟩ := rest.before _ rfl
          constructor
          · intro other member
            cases member with
            | head =>
                refine ⟨value, known, ⟨later, same, holds value ?_⟩, ?_⟩
                · cases result with
                  | none => exact domain.fromConstant_contains key.type value
                  | some result => exact domain.merge_contains (.inr (domain.fromConstant_contains key.type value))
                · obtain ⟨member, inside, equal⟩ := @StatisticsDomain.mem_insertValue _ _ domain distinctValues value
                  exact ⟨member, rest.grows inside, equal⟩
            | tail _ member => exact rest.read other member
          · intro statistics before
            cases before
            exact ⟨later, same, fun value contained => holds value (domain.merge_contains (.inl contained))⟩
          · exact List.Subset.trans StatisticsDomain.subset_insertValue rest.grows

theorem constantColumn_position {partition : GluePartitionInfo} {localNames : List Text}
    {virtualColumn : ℕ → Option (Option Value)} {column : ColumnIndex × ℕ} {entry : ℕ × Option Value}
    (constant : env.constantColumn executor partition localNames virtualColumn column = .ok (some entry)) :
    entry.1 = column.2 := by
  obtain ⟨⟨id, _, _⟩, position⟩ := column
  cases id with
  | virtual id =>
      obtain ⟨value, _, rfl⟩ := Option.map_eq_some_iff.mp (Except.ok.inj constant)
      rfl
  | column index =>
      dsimp only [constantColumn] at constant
      obtain ⟨name, _, constant⟩ := bind_eq_ok.mp constant
      split at constant
      · obtain ⟨type, _, constant⟩ := bind_eq_ok.mp constant
        obtain ⟨value, _, constant⟩ := bind_eq_ok.mp constant
        cases constant
        rfl
      · rw [pure_eq_ok] at constant
        split_ifs at constant
        cases constant
        rfl

/-- A value registered for a key is the value of the partition. -/
theorem finalizeBind_keyValue {partition : GluePartitionInfo} {localNames : List Text}
    {virtualColumn : ℕ → Option (Option Value)} {columnIndexes : List ColumnIndex} {constants : List (ℕ × Option Value)}
    (bound : env.finalizeBind executor partition localNames virtualColumn columnIndexes = .ok constants)
    {position : ℕ} {column : ColumnIndex} (projected : columnIndexes[position]? = some column) {name : Text}
    (id : column.id = .column key.column) (named : env.scan.names[key.column]? = some name)
    (typed : env.scan.types[key.column]? = some key.type)
    (known : env.scan.getPartitionKeyIndex name = some key.keyIndex) {value : Option Value}
    (registered : (position, value) ∈ constants) :
    env.keyValue executor partition key.keyIndex key.type = .ok value := by
  obtain ⟨found, all, rfl⟩ := finalizeBind_constants bound
  obtain ⟨entry, member, here⟩ := List.mem_filterMap.mp registered
  cases here
  obtain ⟨⟨other, at_⟩, inside, constant⟩ := mem_of_mapM all member
  rw [List.mk_mem_zipIdx_iff_getElem?] at inside
  have same : position = at_ := constantColumn_position constant
  subst same
  rw [projected] at inside
  cases inside
  dsimp only [constantColumn] at constant
  rw [id] at constant
  obtain ⟨own, ownName, constant⟩ := bind_eq_ok.mp constant
  rw [vectorAt_eq_ok, named] at ownName
  cases ownName
  rw [known] at constant
  obtain ⟨type, ownType, constant⟩ := bind_eq_ok.mp constant
  rw [vectorAt_eq_ok, typed] at ownType
  cases ownType
  obtain ⟨own, value, constant⟩ := bind_eq_ok.mp constant
  cases constant
  exact value

theorem statisticsKey_eq_some {input : StatisticsInput} (keyed : env.statisticsKey input = some key) :
    ∃ name, env.scan.names[key.column]? = some name ∧ env.scan.types[key.column]? = some key.type ∧
      env.scan.getPartitionKeyIndex name = some key.keyIndex := by
  unfold statisticsKey at keyed
  split_ifs at keyed
  obtain ⟨column, _, keyed⟩ := Option.bind_eq_some_iff.mp keyed
  obtain ⟨name, named, keyed⟩ := Option.bind_eq_some_iff.mp keyed
  obtain ⟨type, typed, keyed⟩ := Option.bind_eq_some_iff.mp keyed
  obtain ⟨keyIndex, known, keyed⟩ := Option.bind_eq_some_iff.mp keyed
  cases keyed
  exact ⟨name, named, typed, known⟩

/-- A partition that can not be read for the key has no value to merge. -/
theorem keyValue_unreadable {index : env.Index} (unreadable : env.Unreadable executor key index) :
    ∃ failed, env.keyValue executor (env.partition index) key.keyIndex key.type = .error failed := by
  cases known : env.keyValue executor (env.partition index) key.keyIndex key.type with
  | error failed => exact ⟨failed, rfl⟩
  | ok value =>
      unfold keyValue at known
      obtain ⟨name, named, known⟩ := bind_eq_ok.mp known
      obtain ⟨text, at_, known⟩ := bind_eq_ok.mp known
      rw [vectorAt_eq_ok] at named at_
      rcases unreadable with short | ⟨_, _, failed, ownName, ownText, refused⟩
      · rw [List.getElem?_eq_none short] at at_
        cases at_
      · rw [named] at ownName
        rw [at_] at ownText
        cases ownName
        cases ownText
        rw [refused] at known
        cases known

/-- The statistics hold of the values a scan of any of the partitions emits, and there are none
if a partition can not be read. -/
theorem hivePartitionStatistics_sound (formatStatistics : Option (StatisticsInput → Option domain.Statistics))
    (files : HiveMultiFileList env) (input : StatisticsInput) (keyed : env.statisticsKey input = some key) :
    (∀ statistics, env.hivePartitionStatistics executor domain formatStatistics files input = some statistics →
        ∀ read ⊆ files.indexes, env.StatisticsSound executor domain read key.column statistics) ∧
      ((∃ index ∈ files.indexes, env.Unreadable executor key index) →
        env.hivePartitionStatistics executor domain formatStatistics files input = none) := by
  obtain ⟨name, named, typed, known⟩ := statisticsKey_eq_some keyed
  constructor
  · intro statistics given read subset
    unfold hivePartitionStatistics at given
    rw [keyed] at given
    dsimp only at given
    split at given
    · rename_i result values done
      cases given
      have merged := mergeStatistics_merged done
      have emitted : ∀ value, env.Emits executor read key.column value →
          domain.Contains result value ∧ ∃ member ∈ values, domain.sameValue value member = true := by
        intro value emits
        obtain ⟨index, inside, _, _, _, _, _, column, bound, projected, id, registered⟩ := emits
        have own := finalizeBind_keyValue bound projected id named typed known registered
        obtain ⟨_, here, ⟨_, same, contained⟩, covered⟩ := merged.read index (subset inside)
        rw [own] at here
        cases here
        cases same
        exact ⟨contained, covered⟩
      constructor
      · intro value emits
        exact domain.setDistinctCount_contains (emitted value emits).1
      · intro distinct emits differ
        rw [domain.distinctCount_set]
        exact StatisticsDomain.length_le_of_distinct (fun value member => (emitted value (emits value member)).2) differ
    · cases given
    · cases given
  · intro ⟨index, inside, unreadable⟩
    obtain ⟨failed, refused⟩ := keyValue_unreadable unreadable
    unfold hivePartitionStatistics
    rw [keyed]
    dsimp only
    cases done : env.mergeStatistics executor domain key files.indexes none [] with
    | none => rfl
    | some found =>
        obtain ⟨merged, values⟩ := found
        obtain ⟨value, read, _⟩ := (mergeStatistics_merged done).read index inside
        rw [refused] at read
        cases read

section Years

/-- Three partitions of two years, one of them spelled in two ways. -/
def yearsListing : HiveListing where
  scan := {
    rootLocation := [], names := ["id", "year"], types := [.varchar, .integer], partitionKeys := ["year"] }
  partitions := [⟨["07"], [], [], [], ∅, []⟩, ⟨["7"], [], [], [], ∅, []⟩, ⟨["12"], [], [], [], ∅, []⟩]
  fs := .ofObjects []
  db := ⟨fun _ => none⟩
  threads := 1

/-- The cast of digits to a number, with no operators and no filters. -/
def numberExecutor : ExpressionExecutor Empty ℕ Empty where
  casts := {
    ofText := List.length
    tryCastAs text _ :=
      if text.all Char.isDigit then some (text.foldl (fun number c => 10 * number + (c.toNat - '0'.toNat)) 0) else none
    typeName _ := "INTEGER"
    implicitCastCost _ _ := -1 }
  apply _ op := nomatch op
  isTrue value := value ≠ 0
  toText _ := []
  fileFilterTableIndex := 0
  isScalar _ := false
  isFoldable _ := false
  tryEvaluateScalar _ := none
  satisfies filter := nomatch filter
  evaluateWithConstant filter := nomatch filter
  tryEvaluateScalar_sound scalar := nomatch scalar
  evaluateWithConstant_sound {filter} := nomatch filter

theorem yearsListing_statistics :
    (∀ statistics, yearsListing.hivePartitionStatistics numberExecutor (OrderedStatistics.domain ℕ LogicalType) none {}
        ⟨some 1, false⟩ = some statistics → ∀ read ⊆ ({} : HiveMultiFileList yearsListing).indexes,
        yearsListing.StatisticsSound numberExecutor (OrderedStatistics.domain ℕ LogicalType) read 1 statistics) ∧
      ((∃ index ∈ ({} : HiveMultiFileList yearsListing).indexes,
          yearsListing.Unreadable numberExecutor ⟨1, 0, .integer⟩ index) →
        yearsListing.hivePartitionStatistics numberExecutor (OrderedStatistics.domain ℕ LogicalType) none {}
          ⟨some 1, false⟩ = none) :=
  @hivePartitionStatistics_sound _ _ _ numberExecutor yearsListing _ ⟨1, 0, .integer⟩ none {} ⟨some 1, false⟩ rfl

/-- The years are 7 and 12. -/
example : (yearsListing.hivePartitionStatistics numberExecutor (OrderedStatistics.domain ℕ LogicalType) none {}
    ⟨some 1, false⟩).map (fun found : OrderedStatistics ℕ => (found.minimum, found.maximum, found.distinct)) =
      some (some 7, some 12, 2) := by
  decide +kernel

end Years

end HiveListing

end DuckGlue
