import DuckGlue.Lib.Expression
import DuckGlue.Planning.HiveMultiFileList

/-! # Partition pruning

A filter that can be evaluated with the values of a partition alone decides whether
the partition is read; one that is true of every partition kept is taken out of the
plan. Join filters prune the partitions again when the scan starts.
-/

namespace DuckGlue

open StringUtil

/-- A column a scan projects: of the table, or virtual (the file's name, size). -/
inductive ColumnId where
  | column (index : Nat)
  | virtual (id : Nat)
  deriving DecidableEq

/-- `ColumnIndex`: a projected column, or what is extracted from it. -/
structure ColumnIndex where
  id : ColumnId
  isPushdownExtract : Bool := false
  hasType : Bool := false
  deriving DecidableEq

/-- `BoundColumnRefExpression` -/
structure ColumnRef where
  tableIndex : Nat
  columnIndex : Nat
  returnType : LogicalType
  depth : Nat := 0

/-- One row a scan and its outer plan give to the column references. -/
structure ScanRow (Value : Type) where
  column : ColumnIndex → Option Value
  /-- References to other tables. -/
  outer : ColumnRef → Option Value

/-- The scan in the plan: its table index, and the columns it projects. -/
structure ScanBinding where
  tableIndex : Nat
  columnIndexes : List ColumnIndex

/-- The value a row has for a column reference. -/
def ScanBinding.columnValue {Value : Type} (binding : ScanBinding) (row : ScanRow Value) (ref : ColumnRef) :
    Option Value :=
  match binding.columnIndexes[ref.columnIndex]? with
  | some column => if ref.tableIndex = binding.tableIndex then row.column column else row.outer ref
  | none => row.outer ref

/-- DuckDB's expressions, and what its planner knows of them. A scalar foldable
expression that can be evaluated comes to that value on every row; a constant
that a table filter rejects satisfies it on no row. -/
structure ExpressionExecutor (Op Value Filter : Type) where
  casts : ValueCasts Value
  /-- What an operator makes of its arguments; a volatile one sees the row. -/
  apply : ScanRow Value → Op → List (Option Value) → Option Value
  /-- `GetValue<bool>` -/
  isTrue : Value → Bool
  /-- `Expression::ToString` -/
  toText : Expression ColumnRef Op Value → Text
  /-- `ExtraOperatorInfo::FILE_FILTER_TABLE_INDEX` -/
  fileFilterTableIndex : Nat
  isScalar : Expression ColumnRef Op Value → Bool
  isFoldable : Expression ColumnRef Op Value → Bool
  /-- `TryEvaluateScalar`; a NULL result is no value. -/
  tryEvaluateScalar : Expression ColumnRef Op Value → Option (Option Value)
  /-- Whether a row satisfies a table filter on a column. -/
  satisfies : Filter → Option Value → Bool
  /-- `EvaluateWithConstant` -/
  evaluateWithConstant : Filter → Option Value → Bool
  tryEvaluateScalar_sound : ∀ {e result}, isScalar e = true → isFoldable e = true →
    tryEvaluateScalar e = some result → ∀ (binding : ScanBinding) row,
      e.evaluate (binding.columnValue row) (apply row) = result
  evaluateWithConstant_sound : ∀ {filter value}, evaluateWithConstant filter value = false →
    satisfies filter value = false

/-- The checked access of `vector::operator[]`. -/
def vectorAt {α : Type} (xs : List α) (index : Nat) : Except Exception α :=
  match xs[index]? with
  | some x => .ok x
  | none => .error (.internal ("Attempted to access index " ++ toString index ++ " within vector of size " ++
      toString xs.length))

/-- `PartitionKeyProjection` -/
structure PartitionKeyProjection where
  projectedColumnIndex : Nat
  partitionKeyIndex : Nat

/-- `ExtraOperatorInfo`: what EXPLAIN and a SQL export show of the pruning. -/
structure ExtraOperatorInfo (Op Value : Type) where
  fileFilters : Text := []
  totalFiles : Option Nat := none
  filteredFiles : Option Nat := none
  fileFilterExpressions : Option (List (Expression ColumnRef Op Value)) := none

/-- `MultiFilePushdownInfo` -/
structure MultiFilePushdownInfo (Op Value : Type) extends ScanBinding where
  extraInfo : ExtraOperatorInfo Op Value := {}

/-- What the filters say of one partition. -/
inductive Verdict where
  /-- A filter is false or NULL. -/
  | prunedBy (filter : Nat)
  /-- No filter is; these are true. -/
  | kept (trueHere : List Nat)

def Verdict.isKept : Verdict → Bool
  | .prunedBy _ => false
  | .kept _ => true

/-- What `PartitionsToRead` returns. -/
structure PartitionsToRead (env : HiveListing) where
  kept : List env.Index
  pruningFilters : List Nat
  decidedFilters : List Nat

/-- What `ComplexFilterPushdown` leaves; `files` is absent where the list stays. -/
structure FilterPushdown (env : HiveListing) (Op Value : Type) where
  files : Option (HiveMultiFileList env) := none
  filters : List (Expression ColumnRef Op Value)
  /-- The filters taken out of the plan. -/
  removed : List (Expression ColumnRef Op Value) := []
  extraInfo : ExtraOperatorInfo Op Value

/-- `PartitionKeyFilter`: a table filter on a partition column. -/
structure PartitionKeyFilter (Filter : Type) where
  filter : Filter
  partitionKeyIndex : Nat
  type : LogicalType

namespace HiveListing

variable {Op Value Filter : Type} (executor : ExpressionExecutor Op Value Filter) (env : HiveListing)

/-- The value of a partition for one of its keys, as a column of that type. -/
def keyValue (partition : GluePartitionInfo) (keyIndex : Nat) (type : LogicalType) :
    Except Exception (Option Value) := do
  let key ← vectorAt env.scan.partitionKeys keyIndex
  let value ← vectorAt partition.values keyIndex
  GlueTypes.partitionValue executor.casts key value type

/-- The constant `ReplacePartitionColumnRefs` puts for a column reference. -/
def partitionConstant (tableIndex : Nat) (projections : List PartitionKeyProjection)
    (partition : GluePartitionInfo) (ref : ColumnRef) : Except Exception (Option (Option Value)) :=
  if ref.tableIndex ≠ tableIndex then .ok none
  else match projections.find? fun projection => projection.projectedColumnIndex = ref.columnIndex with
    | none => .ok none
    | some projection => do
        return some (← env.keyValue executor partition projection.partitionKeyIndex ref.returnType)

/-- `ReplacePartitionColumnRefs` -/
def replacePartitionColumnRefs (tableIndex : Nat) (projections : List PartitionKeyProjection)
    (partition : GluePartitionInfo) (filter : Expression ColumnRef Op Value) :
    Except Exception (Expression ColumnRef Op Value) :=
  filter.replaceColumns (env.partitionConstant executor tableIndex projections partition)

/-- A filter with the values of a partition: true, or false or NULL, or nothing when
it needs the data columns. -/
def decideFilter (tableIndex : Nat) (projections : List PartitionKeyProjection) (partition : GluePartitionInfo)
    (filter : Expression ColumnRef Op Value) : Except Exception (Option Bool) := do
  let filter ← env.replacePartitionColumnRefs executor tableIndex projections partition filter
  if !executor.isScalar filter || !executor.isFoldable filter then return none
  match executor.tryEvaluateScalar filter with
  | none => return none
  | some none => return some false
  | some (some value) => return some (executor.isTrue value)

/-- The filters of a partition in their order, up to the first that rules it out. -/
def judge {F : Type} (decide : F → Except Exception (Option Bool)) : List (F × Nat) → Except Exception Verdict
  | [] => .ok (.kept [])
  | (filter, index) :: filters => do
      match ← decide filter with
      | none => judge decide filters
      | some false => return .prunedBy index
      | some true =>
          match ← judge decide filters with
          | .prunedBy later => return .prunedBy later
          | .kept trueHere => return .kept (index :: trueHere)

/-- What the filters say of a partition. -/
def verdict (tableIndex : Nat) (projections : List PartitionKeyProjection)
    (filters : List (Expression ColumnRef Op Value)) (index : env.Index) : Except Exception Verdict :=
  judge (env.decideFilter executor tableIndex projections (env.partition index)) filters.zipIdx

/-- `PartitionsToRead` -/
def partitionsToRead (tableIndex : Nat) (projections : List PartitionKeyProjection)
    (candidates : List env.Index) (filters : List (Expression ColumnRef Op Value)) :
    Except Exception (PartitionsToRead env) := do
  let verdicts ← Fallible.tabulate (env.verdict executor tableIndex projections filters) candidates
  let kept := verdicts.filter (·.2.isKept)
  let trueInKept (filterIndex : Nat) := kept.countP fun
    | (_, .kept trueHere) => filterIndex ∈ trueHere
    | (_, .prunedBy _) => false
  return {
    kept := kept.map (·.1)
    pruningFilters := verdicts.filterMap fun
      | (_, .prunedBy filterIndex) => some filterIndex
      | (_, .kept _) => none
    decidedFilters := (List.range filters.length).filter fun filterIndex =>
      kept ≠ [] ∧ trueInKept filterIndex = kept.length }

/-- The partition key a projected column is, if any. -/
def projectedKey (id : ColumnId) : Except Exception (Option Nat) :=
  match id with
  | .virtual _ => .ok none
  | .column index => do return env.scan.getPartitionKeyIndex (← vectorAt env.scan.names index)

/-- `PartitionKeyProjections` -/
def partitionKeyProjections (columnIndexes : List ColumnIndex) :
    Except Exception (List PartitionKeyProjection) := do
  let keys ← columnIndexes.mapM fun column => env.projectedKey column.id
  return keys.zipIdx.filterMap fun (key, position) => key.map (⟨position, ·⟩)

/-- `AddPruningFiltersToExtraInfo` -/
def addPruningFiltersToExtraInfo (filters : List (Expression ColumnRef Op Value)) (pruningFilters : List Nat)
    (fileFilters : Text) : Text :=
  (filters.zipIdx.filter fun pair => pair.2 ∈ pruningFilters).foldl (fun text (filter, _) =>
    (if text ≠ [] then text ++ " AND " else text) ++ executor.toText filter) fileFilters

/-- The column a retained filter refers to in place of a projected one. -/
def retainedColumn (fileFilterTableIndex : Nat) (binding : ScanBinding) (ref : ColumnRef) : Option ColumnRef :=
  if ref.depth ≠ 0 ∨ ref.tableIndex ≠ binding.tableIndex then none
  else match binding.columnIndexes[ref.columnIndex]? with
    | some ⟨.column index, false, false⟩ =>
        some { ref with tableIndex := fileFilterTableIndex, columnIndex := index }
    | _ => none

/-- `RetainFileFilter`: one filter not over the scan's columns drops them all. -/
def retainFileFilter (fileFilterTableIndex : Nat) (binding : ScanBinding)
    (retained : Option (List (Expression ColumnRef Op Value)))
    (filter : Expression ColumnRef Op Value) : Option (List (Expression ColumnRef Op Value)) := do
  let retained ← retained
  let column := retainedColumn fileFilterTableIndex binding
  if filter.columns.all fun ref => (column ref).isSome then
    return retained ++ [filter.mapColumns fun ref => (column ref).getD ref]
  else none

/-- `ComplexFilterPushdown` -/
def complexFilterPushdown (info : MultiFilePushdownInfo Op Value) (files : HiveMultiFileList env)
    (filters : List (Expression ColumnRef Op Value)) : Except Exception (FilterPushdown env Op Value) := do
  if env.scan.partitionKeys = [] || filters.isEmpty then return { filters, extraInfo := info.extraInfo }
  let projections ← env.partitionKeyProjections info.columnIndexes
  if projections.isEmpty then return { filters, extraInfo := info.extraInfo }
  let candidates := files.indexes
  let read ← env.partitionsToRead executor info.tableIndex projections candidates filters
  let removed := (filters.zipIdx.filter fun pair => pair.2 ∈ read.decidedFilters).map (·.1)
  let retained := if info.extraInfo.totalFiles.isSome then info.extraInfo.fileFilterExpressions else some []
  return {
    files := if read.kept.length = candidates.length then none else some { partitionIndexes := some read.kept }
    filters := (filters.zipIdx.filter fun pair => pair.2 ∉ read.decidedFilters).map (·.1)
    removed
    extraInfo := {
      fileFilters := addPruningFiltersToExtraInfo executor filters read.pruningFilters info.extraInfo.fileFilters
      totalFiles := some candidates.length
      filteredFiles := some read.kept.length
      fileFilterExpressions := removed.foldl (retainFileFilter executor.fileFilterTableIndex info.toScanBinding) retained } }

/-- The table filter of a projected column, when it is a partition key. -/
def keyFilter (columnIndexes : List ColumnIndex) (entry : Nat × Filter) :
    Except Exception (Option (PartitionKeyFilter Filter)) := do
  let column ← vectorAt columnIndexes entry.1
  match column.id with
  | .virtual _ => return none
  | .column primaryIndex =>
      match env.scan.getPartitionKeyIndex (← vectorAt env.scan.names primaryIndex) with
      | none => return none
      | some keyIndex => return some ⟨entry.2, keyIndex, ← vectorAt env.scan.types primaryIndex⟩

/-- Whether no table filter rejects the values of a partition; the first that does
ends the loop. -/
def passes (partition : GluePartitionInfo) : List (PartitionKeyFilter Filter) → Except Exception Bool
  | [] => .ok true
  | keyFilter :: keyFilters => do
      let value ← env.keyValue executor partition keyFilter.partitionKeyIndex keyFilter.type
      if executor.evaluateWithConstant keyFilter.filter value then passes partition keyFilters
      else return false

/-- `DynamicFilterPushdown` -/
def dynamicFilterPushdown (columnIndexes : List ColumnIndex) (files : HiveMultiFileList env)
    (filters : List (Nat × Filter)) : Except Exception (Option (HiveMultiFileList env)) := do
  if env.scan.partitionKeys = [] || filters.isEmpty then return none
  let keyFilters := (← filters.mapM (env.keyFilter columnIndexes)).reduceOption
  if keyFilters.isEmpty then return none
  let candidates := files.indexes
  let passed ← Fallible.tabulate (fun index => env.passes executor (env.partition index) keyFilters) candidates
  let kept := (passed.filter (·.2)).map (·.1)
  return if kept.length = candidates.length then none else some { partitionIndexes := some kept }

/-- The constant `FinalizeBind` registers for a projected column: the value of the
file's partition, or NULL for a data column the file lacks. -/
def constantColumn (partition : GluePartitionInfo) (localNames : List Text)
    (virtualColumn : Nat → Option (Option Value)) (column : ColumnIndex × Nat) :
    Except Exception (Option (Nat × Option Value)) :=
  match column.1.id with
  | .virtual id => .ok ((virtualColumn id).map (column.2, ·))
  | .column index => do
      let name ← vectorAt env.scan.names index
      match env.scan.getPartitionKeyIndex name with
      | some keyIndex => do
          let value ← env.keyValue executor partition keyIndex (← vectorAt env.scan.types index)
          return some (column.2, value)
      | none => return if localNames.any (ciEquals name ·) then none else some (column.2, none)

/-- `FinalizeBind`: the constants of a file of the partition, by projected column. -/
def finalizeBind (partition : GluePartitionInfo) (localNames : List Text)
    (virtualColumn : Nat → Option (Option Value)) (columnIndexes : List ColumnIndex) :
    Except Exception (List (Nat × Option Value)) := do
  if env.scan.partitionKeys ≠ [] then
    let keys ← Fallible.tabulate (fun column => env.projectedKey column.id) columnIndexes
    let dataColumns := keys.filterMap fun
      | (⟨.column index, _, _⟩, none) => some index
      | _ => none
    env.scan.checkPartitionColumns executor.casts partition dataColumns
  let constants ← columnIndexes.zipIdx.mapM (env.constantColumn executor partition localNames virtualColumn)
  return constants.reduceOption

end HiveListing

end DuckGlue
