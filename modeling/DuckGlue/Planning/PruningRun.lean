import Mathlib.Data.List.ReduceOption
import DuckGlue.Planning.PartitionPruning

/-! # Pruning keeps the rows of a query

The rows a scan reads hold the values of their partition in the partition columns.
On these rows a filter comes to what the pruning decided with the values alone, so
over any sequence of pushdowns the partitions kept and the filters left select what
the first partitions and all filters would.
-/

namespace DuckGlue

/-- A filter of the plan, over the columns the scan then projects. -/
structure PlanFilter (Op Value : Type) where
  binding : ScanBinding
  expression : Expression ColumnRef Op Value

/-- A join filter on a column of the scan. -/
structure DynamicFilter (Filter : Type) where
  column : ColumnIndex
  filter : Filter

/-- The scan during planning and at its start, with every filter there ever was. -/
structure PruningState (env : HiveListing) (Op Value Filter : Type) where
  files : HiveMultiFileList env
  /-- The filters still in the plan. -/
  plan : List (PlanFilter Op Value) := []
  original : List (PlanFilter Op Value) := []
  /-- The filters taken out of the plan. -/
  decided : List (PlanFilter Op Value) := []
  dynamic : List (DynamicFilter Filter) := []

section Rows

variable {Op Value Filter : Type} (executor : ExpressionExecutor Op Value Filter)

/-- A filter is true of a row: neither false nor NULL. -/
def PlanFilter.holds (filter : PlanFilter Op Value) (row : ScanRow Value) : Bool :=
  match filter.expression.evaluate (filter.binding.columnValue row) (executor.apply row) with
  | some value => executor.isTrue value
  | none => false

def DynamicFilter.holds (filter : DynamicFilter Filter) (row : ScanRow Value) : Bool :=
  executor.satisfies filter.filter (row.column filter.column)

namespace HiveListing

variable (env : HiveListing)

/-- The value of a partition in a column, if that is a partition column. -/
def partitionColumnValue (partition : GluePartitionInfo) (id : ColumnId) : Option (Option Value) :=
  match id with
  | .virtual _ => none
  | .column index => do
      let name ← env.scan.names[index]?
      let type ← env.scan.types[index]?
      let keyIndex ← env.scan.getPartitionKeyIndex name
      (env.keyValue executor partition keyIndex type).toOption

/-- A row of a partition: its data, under the values of the partition. -/
def partitionRow (partition : GluePartitionInfo) (data : ScanRow Value) : ScanRow Value :=
  { data with column := fun column => (env.partitionColumnValue executor partition column.id).getD (data.column column) }

/-- The binder's promise: a reference to a partition column has that column's type. -/
def WellTyped (filter : PlanFilter Op Value) : Prop :=
  ∀ ref ∈ filter.expression.columns, ref.tableIndex = filter.binding.tableIndex →
    ∀ column, filter.binding.columnIndexes[ref.columnIndex]? = some column →
      ∀ index keyIndex, column.id = .column index → env.projectedKey column.id = .ok (some keyIndex) →
        env.scan.types[index]? = some ref.returnType

/-- The rows of the partitions, of any data, that satisfy the filters. -/
def selected (data : env.Index → List (ScanRow Value)) (indexes : List env.Index)
    (filters : List (PlanFilter Op Value)) (dynamic : List (DynamicFilter Filter)) : List (ScanRow Value) :=
  Selection.select (fun index => (data index).map (env.partitionRow executor (env.partition index)))
    (fun row => filters.all (·.holds executor row) && dynamic.all (·.holds executor row)) indexes

/-- The filters of a pushdown at the start of the scan, by the columns they are on. -/
def dynamicFilters (columnIndexes : List ColumnIndex) (filters : List (Nat × Filter)) : List (DynamicFilter Filter) :=
  filters.filterMap fun (position, filter) => columnIndexes[position]?.map (⟨·, filter⟩)

/-- What planning and starting a scan do to it, as far as no pushdown throws. -/
inductive PruningRun (start : PruningState env Op Value Filter) : PruningState env Op Value Filter → Prop
  | start : PruningRun start start
  /-- The optimizer brings filters down to the scan. -/
  | bring {state} (run : PruningRun start state) (filters : List (PlanFilter Op Value))
      (wellTyped : ∀ filter ∈ filters, env.WellTyped filter) :
      PruningRun start { state with plan := state.plan ++ filters, original := state.original ++ filters }
  /-- It reorders, combines or rebinds them. -/
  | rewrite {state} (run : PruningRun start state) (filters : List (PlanFilter Op Value))
      (wellTyped : ∀ filter ∈ filters, env.WellTyped filter)
      (same : ∀ row, filters.all (·.holds executor row) = state.plan.all (·.holds executor row)) :
      PruningRun start { state with plan := filters }
  | complexFilterPushdown {state} (run : PruningRun start state) (info : MultiFilePushdownInfo Op Value)
      (held : List (PlanFilter Op Value)) (filters : List (Expression ColumnRef Op Value))
      (given : state.plan = held ++ filters.map (⟨info.toScanBinding, ·⟩)) (result : FilterPushdown env Op Value)
      (done : env.complexFilterPushdown executor info state.files filters = .ok result) :
      PruningRun start { state with
        files := result.files.getD state.files
        plan := held ++ result.filters.map (⟨info.toScanBinding, ·⟩)
        decided := state.decided ++ result.removed.map (⟨info.toScanBinding, ·⟩) }
  | dynamicFilterPushdown {state} (run : PruningRun start state) (columnIndexes : List ColumnIndex)
      (filters : List (Nat × Filter)) (result : Option (HiveMultiFileList env))
      (done : env.dynamicFilterPushdown executor columnIndexes state.files filters = .ok result) :
      PruningRun start { state with
        files := result.getD state.files
        dynamic := state.dynamic ++ dynamicFilters columnIndexes filters }

end HiveListing

end Rows

namespace HiveListing

open Fallible StringUtil

variable {Op Value Filter : Type} {executor : ExpressionExecutor Op Value Filter} {env : HiveListing}
  {partition : GluePartitionInfo} {projections : List PartitionKeyProjection}

@[simp] theorem vectorAt_eq_ok {α : Type} {xs : List α} {index : Nat} {x : α} :
    vectorAt xs index = .ok x ↔ xs[index]? = some x := by
  unfold vectorAt
  split <;> simp_all

theorem projectedKey_eq_some {id : ColumnId} {keyIndex : Nat} :
    env.projectedKey id = .ok (some keyIndex) ↔
      ∃ index name, id = .column index ∧ env.scan.names[index]? = some name ∧
        env.scan.getPartitionKeyIndex name = some keyIndex := by
  cases id with
  | virtual _ => simp [projectedKey]
  | column index => simp [projectedKey]

/-- The value of the partition stands in every column that is one of its keys. -/
theorem partitionColumnValue_key {index keyIndex : Nat} {type : LogicalType} {value : Option Value}
    (key : env.projectedKey (.column index) = .ok (some keyIndex)) (typed : env.scan.types[index]? = some type)
    (known : env.keyValue executor partition keyIndex type = .ok value) :
    env.partitionColumnValue executor partition (.column index) = some value := by
  obtain ⟨_, name, same, named, found⟩ := projectedKey_eq_some.mp key
  cases same
  simp [partitionColumnValue, named, typed, found, known, Except.toOption]

/-- The constants are those of the projected columns that have one. -/
theorem finalizeBind_constants {localNames : List Text} {virtualColumn : Nat → Option (Option Value)}
    {columnIndexes : List ColumnIndex} {constants : List (Nat × Option Value)}
    (bound : env.finalizeBind executor partition localNames virtualColumn columnIndexes = .ok constants) :
    ∃ found, columnIndexes.zipIdx.mapM (env.constantColumn executor partition localNames virtualColumn) = .ok found ∧
      found.reduceOption = constants := by
  unfold finalizeBind at bound
  split at bound
  · simp only [bind_eq_ok, pure_eq_ok] at bound
    obtain ⟨_, -, _, -, done⟩ := bound
    exact done
  · simpa only [bind_eq_ok, pure_eq_ok] using bound

/-- What `FinalizeBind` registers for a partition column is what the row holds. -/
theorem finalizeBind_partitionRow {localNames : List Text} {virtualColumn : Nat → Option (Option Value)}
    {columnIndexes : List ColumnIndex} {constants : List (Nat × Option Value)}
    (bound : env.finalizeBind executor partition localNames virtualColumn columnIndexes = .ok constants)
    {position keyIndex : Nat} {column : ColumnIndex} (projected : columnIndexes[position]? = some column)
    (key : env.projectedKey column.id = .ok (some keyIndex)) (data : ScanRow Value) :
    (position, (env.partitionRow executor partition data).column column) ∈ constants := by
  obtain ⟨found, all, rfl⟩ := finalizeBind_constants bound
  obtain ⟨index, name, id, named, known⟩ := projectedKey_eq_some.mp key
  have here := getElem?_mapM all position
  rw [List.getElem?_zipIdx, projected] at here
  simp only [Option.map_some, Option.map_eq_some_iff, Nat.zero_add] at here
  obtain ⟨constant, at_, constantHere⟩ := here
  simp only [constantColumn, id] at constantHere
  obtain ⟨_, same, type, typed, value, known', rfl⟩ : ∃ name', env.scan.names[index]? = some name' ∧
      ∃ type, env.scan.types[index]? = some type ∧ ∃ value, env.keyValue executor partition keyIndex type = .ok value ∧
        some (position, value) = constant := by
    simpa [named, known] using constantHere.symm
  have row : (env.partitionRow executor partition data).column column = value := by
    rw [id] at key
    simp [partitionRow, id, partitionColumnValue_key key typed known']
  rw [row, List.reduceOption, List.mem_filterMap]
  exact ⟨_, List.mem_of_getElem? at_, rfl⟩

theorem mem_partitionKeyProjections {columnIndexes : List ColumnIndex}
    (h : env.partitionKeyProjections columnIndexes = .ok projections) {projection : PartitionKeyProjection}
    (member : projection ∈ projections) :
    ∃ column, columnIndexes[projection.projectedColumnIndex]? = some column ∧
      env.projectedKey column.id = .ok (some projection.partitionKeyIndex) := by
  simp only [partitionKeyProjections, bind_eq_ok, pure_eq_ok] at h
  obtain ⟨keys, all, rfl⟩ := h
  simp only [List.mem_filterMap, Option.map_eq_some_iff, Prod.exists, List.mk_mem_zipIdx_iff_getElem?] at member
  obtain ⟨_, position, at_, keyIndex, rfl, rfl⟩ := member
  have here := getElem?_mapM all position
  rw [at_] at here
  obtain ⟨column, projected, key⟩ := Option.map_eq_some_iff.mp here.symm
  exact ⟨column, projected, key⟩

/-- The constants `ReplacePartitionColumnRefs` puts are what a row of the partition
holds. -/
theorem partitionConstant_sound {filter : PlanFilter Op Value} (wellTyped : env.WellTyped filter)
    (projected : env.partitionKeyProjections filter.binding.columnIndexes = .ok projections)
    {ref : ColumnRef} (member : ref ∈ filter.expression.columns) {value : Option Value}
    (constant : env.partitionConstant executor filter.binding.tableIndex projections partition ref = .ok (some value))
    (data : ScanRow Value) :
    filter.binding.columnValue (env.partitionRow executor partition data) ref = value := by
  unfold partitionConstant at constant
  split at constant
  · cases constant
  have table : ref.tableIndex = filter.binding.tableIndex := by simp_all
  cases found : projections.find? fun projection => projection.projectedColumnIndex = ref.columnIndex with
  | none => simp [found] at constant
  | some projection =>
      simp only [found, bind_eq_ok, pure_eq_ok, Option.some.injEq, exists_eq_right] at constant
      obtain ⟨column, at_, key⟩ := mem_partitionKeyProjections projected (List.mem_of_find?_eq_some found)
      have same : projection.projectedColumnIndex = ref.columnIndex := by simpa using List.find?_some found
      rw [same] at at_
      obtain ⟨index, name, id, -, -⟩ := projectedKey_eq_some.mp key
      have typed := wellTyped ref member table column at_ index _ id key
      rw [id] at key
      simp [ScanBinding.columnValue, at_, table, partitionRow, id, partitionColumnValue_key key typed constant]

/-- What the values of a partition decide of a filter, the filter is on each of its
rows. -/
theorem decideFilter_sound {filter : PlanFilter Op Value} (wellTyped : env.WellTyped filter)
    (projected : env.partitionKeyProjections filter.binding.columnIndexes = .ok projections) {result : Bool}
    (decided : env.decideFilter executor filter.binding.tableIndex projections partition filter.expression =
      .ok (some result)) (data : ScanRow Value) :
    filter.holds executor (env.partitionRow executor partition data) = result := by
  simp only [decideFilter, bind_eq_ok] at decided
  obtain ⟨replaced, done, decided⟩ := decided
  have same := Expression.evaluate_replaceColumns (executor.apply (env.partitionRow executor partition data))
    (fun ref member value constant => partitionConstant_sound wellTyped projected member constant data) done
  split_ifs at decided with needed
  · simp at decided
  · simp only [Bool.or_eq_true, Bool.not_eq_eq_eq_not, Bool.not_true, not_or, Bool.not_eq_false] at needed
    cases evaluated : executor.tryEvaluateScalar replaced with
    | none => simp [evaluated] at decided
    | some scalar =>
        have value := executor.tryEvaluateScalar_sound needed.1 needed.2 evaluated filter.binding
          (env.partitionRow executor partition data)
        rw [same] at value
        cases scalar with
        | none => simp_all [PlanFilter.holds]
        | some _ => simp_all [PlanFilter.holds]

section Judge

variable {F : Type} {decide : F → Except Exception (Option Bool)} {filters : List (F × Nat)}

/-- A partition is ruled out by a filter that is not true of it. -/
theorem judge_prunedBy {index : Nat} (h : judge decide filters = .ok (.prunedBy index)) :
    ∃ filter, (filter, index) ∈ filters ∧ decide filter = .ok (some false) := by
  induction filters with
  | nil => cases h
  | cons first filters ih =>
      simp only [judge, bind_eq_ok] at h
      obtain ⟨decision, here, h⟩ := h
      have later : judge decide filters = .ok (.prunedBy index) →
          ∃ filter, (filter, index) ∈ first :: filters ∧ decide filter = .ok (some false) := by
        intro h
        obtain ⟨filter, member, decided⟩ := ih h
        exact ⟨filter, List.mem_cons_of_mem _ member, decided⟩
      cases decision with
      | none => exact later h
      | some holds =>
          cases holds with
          | false =>
              cases h
              exact ⟨first.1, List.mem_cons_self, here⟩
          | true =>
              obtain ⟨verdict, rest, h⟩ := bind_eq_ok.mp h
              cases verdict with
              | prunedBy _ =>
                  cases h
                  exact later rest
              | kept _ => cases h

/-- The filters counted for a partition kept are true of it. -/
theorem judge_kept {trueHere : List Nat} (h : judge decide filters = .ok (.kept trueHere)) {index : Nat}
    (member : index ∈ trueHere) : ∃ filter, (filter, index) ∈ filters ∧ decide filter = .ok (some true) := by
  induction filters generalizing trueHere with
  | nil =>
      cases h
      cases member
  | cons first filters ih =>
      simp only [judge, bind_eq_ok] at h
      obtain ⟨decision, here, h⟩ := h
      have later : ∀ {trueLater}, judge decide filters = .ok (.kept trueLater) → index ∈ trueLater →
          ∃ filter, (filter, index) ∈ first :: filters ∧ decide filter = .ok (some true) := by
        intro trueLater h member
        obtain ⟨filter, member, decided⟩ := ih h member
        exact ⟨filter, List.mem_cons_of_mem _ member, decided⟩
      cases decision with
      | none => exact later h member
      | some holds =>
          cases holds with
          | false => cases h
          | true =>
              obtain ⟨verdict, rest, h⟩ := bind_eq_ok.mp h
              cases verdict with
              | prunedBy _ => cases h
              | kept _ =>
                  cases h
                  cases member with
                  | head => exact ⟨first.1, List.mem_cons_self, here⟩
                  | tail _ member => exact later rest member

end Judge

section Pushdown

variable {tableIndex : Nat} {candidates : List env.Index} {filters : List (Expression ColumnRef Op Value)}
  {read : PartitionsToRead env}

/-- The candidates kept, in their order. -/
theorem partitionsToRead_kept
    (h : env.partitionsToRead executor tableIndex projections candidates filters = .ok read) :
    read.kept = candidates.filter fun index =>
      (env.verdict executor tableIndex projections filters index).toOption.any Verdict.isKept := by
  simp only [partitionsToRead, bind_eq_ok, pure_eq_ok] at h
  obtain ⟨verdicts, all, rfl⟩ := h
  exact filter_tabulate all Verdict.isKept

/-- A candidate that is not kept has a filter that is false or NULL. -/
theorem partitionsToRead_lost
    (h : env.partitionsToRead executor tableIndex projections candidates filters = .ok read) {index : env.Index}
    (member : index ∈ candidates)
    (lost : (env.verdict executor tableIndex projections filters index).toOption.any Verdict.isKept = false) :
    ∃ filter ∈ filters,
      env.decideFilter executor tableIndex projections (env.partition index) filter = .ok (some false) := by
  simp only [partitionsToRead, bind_eq_ok, pure_eq_ok] at h
  obtain ⟨verdicts, all, rfl⟩ := h
  obtain ⟨verdict, judged⟩ := exists_of_tabulate all member
  rw [judged] at lost
  cases verdict with
  | kept _ => cases lost
  | prunedBy filterIndex =>
      obtain ⟨filter, given, decided⟩ := judge_prunedBy judged
      exact ⟨filter, List.mem_of_getElem? (List.mk_mem_zipIdx_iff_getElem?.mp given), decided⟩

/-- A decided filter is true of every candidate kept. -/
theorem partitionsToRead_decided
    (h : env.partitionsToRead executor tableIndex projections candidates filters = .ok read) {index : env.Index}
    (kept : index ∈ read.kept) {filterIndex : Nat} (decided : filterIndex ∈ read.decidedFilters)
    {filter : Expression ColumnRef Op Value} (given : filters[filterIndex]? = some filter) :
    env.decideFilter executor tableIndex projections (env.partition index) filter = .ok (some true) := by
  simp only [partitionsToRead, bind_eq_ok, pure_eq_ok] at h
  obtain ⟨verdicts, all, rfl⟩ := h
  simp only [List.mem_map] at kept
  obtain ⟨⟨index, verdict⟩, member, rfl⟩ := kept
  simp only [List.mem_filter, decide_eq_true_eq] at decided
  have counted := List.countP_eq_length.mp decided.2.2 _ member
  obtain ⟨-, judged⟩ := (mem_tabulate all).mp (List.mem_filter.mp member).1
  cases verdict with
  | prunedBy _ => cases counted
  | kept trueHere =>
      obtain ⟨filter', found, holds⟩ := judge_kept judged (of_decide_eq_true counted)
      rw [List.mk_mem_zipIdx_iff_getElem?] at found
      obtain rfl : filter' = filter := Option.some.inj (found.symm.trans given)
      exact holds

end Pushdown

section ComplexFilterPushdown

variable {info : MultiFilePushdownInfo Op Value} {files : HiveMultiFileList env}
  {filters : List (Expression ColumnRef Op Value)} {result : FilterPushdown env Op Value}

/-- What a pushdown of filters keeps and takes out of the plan. -/
structure FilterPruning (executor : ExpressionExecutor Op Value Filter) (binding : ScanBinding)
    (files : HiveMultiFileList env) (filters : List (Expression ColumnRef Op Value))
    (result : FilterPushdown env Op Value) (keep : env.Index → Bool) : Prop where
  kept : (result.files.getD files).indexes = files.indexes.filter keep
  /-- A partition is left out for a filter that is true of none of its rows. -/
  lost : ∀ index ∈ files.indexes, keep index = false → ∃ filter ∈ filters,
    ∀ data, PlanFilter.holds executor ⟨binding, filter⟩ (env.partitionRow executor (env.partition index) data) = false
  /-- A filter is taken out when it is true of every row kept. -/
  removed : ∀ index ∈ files.indexes, keep index = true → ∀ filter ∈ result.removed,
    ∀ data, PlanFilter.holds executor ⟨binding, filter⟩ (env.partitionRow executor (env.partition index) data) = true
  given : ∀ filter, filter ∈ filters ↔ filter ∈ result.filters ∨ filter ∈ result.removed

/-- A pushdown that decides nothing. -/
theorem FilterPruning.unchanged (binding : ScanBinding) (extraInfo : ExtraOperatorInfo Op Value) :
    FilterPruning executor binding files filters ⟨none, filters, [], extraInfo⟩ fun _ => true where
  kept := by simp
  lost := by simp
  removed := by simp
  given := by simp

theorem mem_filter_zipIdx {α : Type} {xs : List α} {p : Nat → Prop} [DecidablePred p] {x : α} :
    x ∈ (xs.zipIdx.filter fun pair => p pair.2).map (·.1) ↔ ∃ index, xs[index]? = some x ∧ p index := by
  simp [List.mk_mem_zipIdx_iff_getElem?]

theorem mem_or_mem_filter_zipIdx {α : Type} {xs : List α} {p : Nat → Prop} [DecidablePred p] {x : α} :
    x ∈ xs ↔ x ∈ (xs.zipIdx.filter fun pair => ¬p pair.2).map (·.1) ∨
      x ∈ (xs.zipIdx.filter fun pair => p pair.2).map (·.1) := by
  rw [mem_filter_zipIdx, @mem_filter_zipIdx _ _ fun index => ¬p index, List.mem_iff_getElem?, ← exists_or]
  apply exists_congr
  intro index
  rw [← and_or_left]
  exact (and_iff_left (or_comm.mp (Classical.em _))).symm

/-- The list of a pushdown is of the partitions kept, the same one if these are all. -/
theorem indexes_of_kept {keep : env.Index → Bool} {kept : List env.Index} (same : kept = files.indexes.filter keep) :
    ((if kept.length = files.indexes.length then none else some { partitionIndexes := some kept } :
      Option (HiveMultiFileList env)).getD files).indexes = files.indexes.filter keep := by
  split
  · rename_i all
    rw [same] at all
    simpa using (List.filter_sublist.eq_of_length all).symm
  · exact same

theorem complexFilterPushdown_pruning
    (wellTyped : ∀ filter ∈ filters, env.WellTyped (⟨info.toScanBinding, filter⟩ : PlanFilter Op Value))
    (done : env.complexFilterPushdown executor info files filters = .ok result) :
    ∃ keep, FilterPruning executor info.toScanBinding files filters result keep := by
  unfold complexFilterPushdown at done
  split at done
  · cases done
    exact ⟨_, .unchanged info.toScanBinding info.extraInfo⟩
  obtain ⟨projections, projected, done⟩ := bind_eq_ok.mp done
  split at done
  · cases done
    exact ⟨_, .unchanged info.toScanBinding info.extraInfo⟩
  obtain ⟨read, reading, done⟩ := bind_eq_ok.mp done
  obtain rfl := pure_eq_ok.mp done
  have kept := partitionsToRead_kept reading
  refine ⟨_, ⟨indexes_of_kept kept, ?_, ?_, ?_⟩⟩
  · intro index member lost
    obtain ⟨filter, given, decided⟩ := partitionsToRead_lost reading member lost
    exact ⟨filter, given, decideFilter_sound (wellTyped filter given) projected decided⟩
  · intro index member keep filter removed
    obtain ⟨filterIndex, given, decided⟩ := mem_filter_zipIdx.mp removed
    have here : index ∈ read.kept := kept ▸ List.mem_filter.mpr ⟨member, keep⟩
    exact decideFilter_sound (wellTyped filter (List.mem_of_getElem? given)) projected
      (partitionsToRead_decided reading here decided given)
  · exact fun filter => mem_or_mem_filter_zipIdx

end ComplexFilterPushdown

section DynamicFilterPushdown

variable {columnIndexes : List ColumnIndex} {files : HiveMultiFileList env} {filters : List (Nat × Filter)}
  {result : Option (HiveMultiFileList env)}

/-- A partition that does not pass has a filter its value does not satisfy. -/
theorem passes_eq_false {keyFilters : List (PartitionKeyFilter Filter)}
    (h : env.passes executor partition keyFilters = .ok false) :
    ∃ keyFilter ∈ keyFilters, ∃ value,
      env.keyValue executor partition keyFilter.partitionKeyIndex keyFilter.type = .ok value ∧
        executor.evaluateWithConstant keyFilter.filter value = false := by
  induction keyFilters with
  | nil => cases h
  | cons first keyFilters ih =>
      simp only [passes, bind_eq_ok] at h
      obtain ⟨value, known, h⟩ := h
      split at h
      · obtain ⟨keyFilter, member, rest⟩ := ih h
        exact ⟨keyFilter, List.mem_cons_of_mem _ member, rest⟩
      · rename_i rejected
        exact ⟨first, List.mem_cons_self, value, known, by simpa using rejected⟩

/-- A table filter of a partition column is about that column and its type. -/
theorem keyFilter_eq_some {entry : Nat × Filter} {found : PartitionKeyFilter Filter}
    (h : env.keyFilter columnIndexes entry = .ok (some found)) :
    ∃ column index, columnIndexes[entry.1]? = some column ∧ column.id = .column index ∧
      env.projectedKey column.id = .ok (some found.partitionKeyIndex) ∧
      env.scan.types[index]? = some found.type ∧ found.filter = entry.2 := by
  simp only [keyFilter, bind_eq_ok, vectorAt_eq_ok] at h
  obtain ⟨column, at_, h⟩ := h
  split at h
  · cases h
  · rename_i index id
    obtain ⟨name, named, h⟩ := bind_eq_ok.mp h
    split at h
    · cases h
    · rename_i keyIndex known
      obtain ⟨type, typed, h⟩ := bind_eq_ok.mp h
      cases h
      rw [vectorAt_eq_ok] at named typed
      exact ⟨column, index, at_, id, projectedKey_eq_some.mpr ⟨index, name, id, named, known⟩, typed, rfl⟩

theorem dynamicFilterPushdown_pruning
    (done : env.dynamicFilterPushdown executor columnIndexes files filters = .ok result) :
    ∃ keep : env.Index → Bool, (result.getD files).indexes = files.indexes.filter keep ∧
      ∀ index ∈ files.indexes, keep index = false → ∃ filter ∈ dynamicFilters columnIndexes filters,
        ∀ data, filter.holds executor (env.partitionRow executor (env.partition index) data) = false := by
  unfold dynamicFilterPushdown at done
  split at done
  · cases done
    exact ⟨fun _ => true, by simp, by simp⟩
  obtain ⟨found, collected, done⟩ := bind_eq_ok.mp done
  dsimp only at done
  split at done
  · cases done
    exact ⟨fun _ => true, by simp, by simp⟩
  obtain ⟨passed, all, done⟩ := bind_eq_ok.mp done
  obtain rfl := pure_eq_ok.mp done
  refine ⟨_, indexes_of_kept (filter_tabulate all id), ?_⟩
  intro index member lost
  obtain ⟨passes, tested⟩ := exists_of_tabulate all member
  rw [tested] at lost
  obtain rfl : passes = false := lost
  obtain ⟨keyFilter, collectedHere, value, known, rejected⟩ := passes_eq_false tested
  obtain ⟨entry, given, isKey⟩ := mem_of_mapM collected (List.reduceOption_mem_iff.mp collectedHere)
  obtain ⟨column, index', at_, id, key, typed, same⟩ := keyFilter_eq_some isKey
  refine ⟨⟨column, entry.2⟩, List.mem_filterMap.mpr ⟨entry, given, by simp [at_]⟩, fun data => ?_⟩
  rw [id] at key
  simp [DynamicFilter.holds, partitionRow, id, partitionColumnValue_key key typed known, ← same,
    executor.evaluateWithConstant_sound rejected]

end DynamicFilterPushdown

section Run

variable {start state : PruningState env Op Value Filter} {data : env.Index → List (ScanRow Value)}

/-- What every pushdown keeps: the rows selected, and what is known of the filters. -/
structure PruningKept (executor : ExpressionExecutor Op Value Filter) (data : env.Index → List (ScanRow Value))
    (candidates : List env.Index) (state : PruningState env Op Value Filter) : Prop where
  wellTyped : ∀ filter ∈ state.plan, env.WellTyped filter
  rows : env.selected executor data state.files.indexes state.plan state.dynamic =
    env.selected executor data candidates state.original state.dynamic
  decided : ∀ filter ∈ state.decided, ∀ index ∈ state.files.indexes, ∀ row ∈ data index,
    filter.holds executor (env.partitionRow executor (env.partition index) row) = true

/-- Further filters select among the rows selected. -/
theorem selected_append {indexes : List env.Index} {filters more : List (PlanFilter Op Value)}
    {dynamic : List (DynamicFilter Filter)} :
    env.selected executor data indexes (filters ++ more) dynamic =
      (env.selected executor data indexes filters dynamic).filter fun row => more.all (·.holds executor row) := by
  unfold selected
  rw [← Selection.select_and]
  apply Selection.select_congr
  intro index _ row _
  rw [List.all_append]
  exact Bool.and_right_comm ..

theorem selected_append_dynamic {indexes : List env.Index} {filters : List (PlanFilter Op Value)}
    {dynamic more : List (DynamicFilter Filter)} :
    env.selected executor data indexes filters (dynamic ++ more) =
      (env.selected executor data indexes filters dynamic).filter fun row => more.all (·.holds executor row) := by
  unfold selected
  rw [← Selection.select_and]
  apply Selection.select_congr
  intro index _ row _
  rw [List.all_append]
  exact (Bool.and_assoc ..).symm

/-- A pushdown of filters keeps the rows the plan selects. -/
theorem FilterPruning.selected {binding : ScanBinding} {files : HiveMultiFileList env}
    {filters : List (Expression ColumnRef Op Value)} {result : FilterPushdown env Op Value} {keep : env.Index → Bool}
    (pruning : FilterPruning executor binding files filters result keep) (held : List (PlanFilter Op Value))
    (dynamic : List (DynamicFilter Filter)) :
    env.selected executor data (result.files.getD files).indexes
        (held ++ result.filters.map (PlanFilter.mk binding)) dynamic =
      env.selected executor data files.indexes (held ++ filters.map (PlanFilter.mk binding)) dynamic := by
  rw [pruning.kept]
  calc env.selected executor data (files.indexes.filter keep)
        (held ++ result.filters.map (PlanFilter.mk binding)) dynamic
    _ = env.selected executor data (files.indexes.filter keep) (held ++ filters.map (PlanFilter.mk binding)) dynamic := by
        apply Selection.select_congr
        intro index kept row member
        obtain ⟨here, keep⟩ := List.mem_filter.mp kept
        obtain ⟨data, -, rfl⟩ := List.mem_map.mp member
        congr 1
        rw [Bool.eq_iff_iff]
        simp only [List.all_append, Bool.and_eq_true, List.all_map, List.all_eq_true]
        apply and_congr_right
        intro _
        -- a filter taken out is true of the row
        constructor
        · intro remaining filter given
          cases (pruning.given filter).mp given with
          | inl left => exact remaining filter left
          | inr removed => exact pruning.removed index here keep filter removed data
        · intro all filter left
          exact all filter ((pruning.given filter).mpr (.inl left))
    _ = env.selected executor data files.indexes (held ++ filters.map (PlanFilter.mk binding)) dynamic := by
        apply Selection.select_filter
        intro index here lost row member
        obtain ⟨data, -, rfl⟩ := List.mem_map.mp member
        obtain ⟨filter, given, rejects⟩ := pruning.lost index here lost
        have notAll : (held ++ filters.map (PlanFilter.mk binding)).all
            (·.holds executor (env.partitionRow executor (env.partition index) data)) = false :=
          List.all_eq_false.mpr ⟨⟨binding, filter⟩, by simp [given], by simp [rejects data]⟩
        simp [notAll]

theorem PruningKept.complexFilterPushdown {candidates : List env.Index} {info : MultiFilePushdownInfo Op Value}
    {held : List (PlanFilter Op Value)} {filters : List (Expression ColumnRef Op Value)}
    {result : FilterPushdown env Op Value} (before : PruningKept executor data candidates state)
    (given : state.plan = held ++ filters.map (⟨info.toScanBinding, ·⟩))
    (done : env.complexFilterPushdown executor info state.files filters = .ok result) :
    PruningKept executor data candidates { state with
      files := result.files.getD state.files
      plan := held ++ result.filters.map (⟨info.toScanBinding, ·⟩)
      decided := state.decided ++ result.removed.map (⟨info.toScanBinding, ·⟩) } := by
  have wellTyped := given ▸ before.wellTyped
  obtain ⟨keep, pruning⟩ := complexFilterPushdown_pruning
    (fun filter member => wellTyped ⟨info.toScanBinding, filter⟩ (by simp [member])) done
  constructor
  · intro filter member
    apply wellTyped
    cases List.mem_append.mp member with
    | inl held => exact List.mem_append_left _ held
    | inr left =>
        obtain ⟨filter, remaining, rfl⟩ := List.mem_map.mp left
        simp [(pruning.given filter).mpr (.inl remaining)]
  · exact (pruning.selected held state.dynamic).trans (given ▸ before.rows)
  · intro filter member index kept row here
    rw [pruning.kept] at kept
    obtain ⟨candidate, keep⟩ := List.mem_filter.mp kept
    cases List.mem_append.mp member with
    | inl earlier => exact before.decided filter earlier index candidate row here
    | inr removed =>
        obtain ⟨filter, here', rfl⟩ := List.mem_map.mp removed
        exact pruning.removed index candidate keep filter here' row

theorem PruningKept.dynamicFilterPushdown {candidates : List env.Index} {columnIndexes : List ColumnIndex}
    {filters : List (Nat × Filter)} {result : Option (HiveMultiFileList env)}
    (before : PruningKept executor data candidates state)
    (done : env.dynamicFilterPushdown executor columnIndexes state.files filters = .ok result) :
    PruningKept executor data candidates { state with
      files := result.getD state.files
      dynamic := state.dynamic ++ dynamicFilters columnIndexes filters } := by
  obtain ⟨keep, kept, lost⟩ := dynamicFilterPushdown_pruning done
  refine ⟨before.wellTyped, ?_, ?_⟩
  · have same : env.selected executor data (result.getD state.files).indexes state.plan
          (state.dynamic ++ dynamicFilters columnIndexes filters) =
        env.selected executor data state.files.indexes state.plan
          (state.dynamic ++ dynamicFilters columnIndexes filters) := by
      rw [kept]
      apply Selection.select_filter
      intro index here dropped row member
      obtain ⟨data, -, rfl⟩ := List.mem_map.mp member
      obtain ⟨filter, given, rejects⟩ := lost index here dropped
      have notAll : (state.dynamic ++ dynamicFilters columnIndexes filters).all
          (·.holds executor (env.partitionRow executor (env.partition index) data)) = false :=
        List.all_eq_false.mpr ⟨filter, by simp [given], by simp [rejects data]⟩
      simp [notAll]
    rw [same, selected_append_dynamic, before.rows, ← selected_append_dynamic]
  · intro filter member index here
    rw [kept] at here
    exact before.decided filter member index (List.mem_filter.mp here).1

/-- Over every sequence of pushdowns the partitions kept and the filters left select
the rows the first partitions and all the filters do, and a filter taken out of the
plan is true of every row of the partitions kept. -/
theorem pruning_exact {files : HiveMultiFileList env} (run : env.PruningRun executor { files } state)
    (data : env.Index → List (ScanRow Value)) :
    env.selected executor data state.files.indexes state.plan state.dynamic =
        env.selected executor data files.indexes state.original state.dynamic ∧
      ∀ filter ∈ state.decided, ∀ index ∈ state.files.indexes, ∀ row ∈ data index,
        filter.holds executor (env.partitionRow executor (env.partition index) row) = true := by
  have kept : PruningKept executor data files.indexes state := by
    induction run with
    | start => exact ⟨by simp, rfl, by simp⟩
    | bring _ filters wellTyped before =>
        refine ⟨?_, ?_, before.decided⟩
        · exact List.forall_mem_append.mpr ⟨before.wellTyped, wellTyped⟩
        · rw [selected_append, selected_append, before.rows]
    | rewrite _ filters wellTyped same before =>
        refine ⟨wellTyped, ?_, before.decided⟩
        rw [← before.rows]
        apply Selection.select_congr
        intro _ _ row _
        rw [same row]
    | complexFilterPushdown _ info held filters given result done before =>
        exact before.complexFilterPushdown given done
    | dynamicFilterPushdown _ columnIndexes filters result done before => exact before.dynamicFilterPushdown done
  exact ⟨kept.rows, kept.decided⟩

/-- Two days of a table, and DuckDB as far as it compares texts. -/
def daysListing : HiveListing where
  scan := {
    rootLocation := [], names := [['i', 'd'], ['d', 'a', 'y']], types := [.varchar, .varchar]
    partitionKeys := [['d', 'a', 'y']] }
  partitions := [⟨[['1']], [], [], [], ∅, []⟩, ⟨[['2']], [], [], [], ∅, []⟩]
  fs := .ofObjects []
  db := ⟨fun _ => none⟩
  threads := 1

def equalsExecutor : ExpressionExecutor Unit (Text ⊕ Bool) (Option (Text ⊕ Bool)) where
  casts := ⟨.inl, fun text _ => some (.inl text), fun _ => [], fun _ _ => -1⟩
  apply
    | _, _, [some (.inl a), some (.inl b)] => some (.inr (a = b))
    | _, _, _ => none
  isTrue
    | .inr holds => holds
    | .inl _ => false
  toText _ := []
  fileFilterTableIndex := 0
  isScalar
    | .call () [.constant _, .constant _] => true
    | _ => false
  isFoldable _ := true
  tryEvaluateScalar
    | .call () [.constant (some (.inl a)), .constant (some (.inl b))] => some (some (.inr (a = b)))
    | _ => none
  satisfies filter value := filter = value
  evaluateWithConstant filter value := filter = value
  tryEvaluateScalar_sound := by
    intro e result _ _ evaluated binding row
    split at evaluated
    · cases evaluated
      rfl
    · cases evaluated
  evaluateWithConstant_sound := id

/-- `day = 2`, over a scan that projects the day alone. -/
def secondDay : PlanFilter Unit (Text ⊕ Bool) where
  binding := ⟨7, [⟨.column 1, false, false⟩]⟩
  expression := .call () [.columnRef ⟨7, 0, .varchar, 0⟩, .constant (some (.inl ['2']))]

def secondDayIndex : daysListing.Index := ⟨1, by decide⟩

theorem pruning_exact_secondDay :
    daysListing.selected equalsExecutor (fun _ => [⟨fun _ => none, fun _ => none⟩]) [secondDayIndex] [] [] =
      daysListing.selected equalsExecutor (fun _ => [⟨fun _ => none, fun _ => none⟩])
        (List.finRange daysListing.partitions.length) [secondDay] [] := by
  have wellTyped : daysListing.WellTyped secondDay := by
    intro ref member _ column projected index keyIndex id _
    obtain rfl : ref = ⟨7, 0, .varchar, 0⟩ := List.mem_singleton.mp member
    cases projected
    cases id
    rfl
  let info : MultiFilePushdownInfo Unit (Text ⊕ Bool) := { secondDay.binding with }
  have run : daysListing.PruningRun equalsExecutor { files := {} } _ :=
    .complexFilterPushdown (.bring .start [secondDay] (by simpa using wellTyped)) info [] [secondDay.expression] rfl
      ⟨some { partitionIndexes := some [secondDayIndex] }, [], [secondDay.expression], ⟨[], some 2, some 1, some [
        .call () [.columnRef ⟨0, 1, .varchar, 0⟩, .constant (some (.inl ['2']))]]⟩⟩ rfl
  exact (pruning_exact run _).1

end Run

end HiveListing

end DuckGlue
