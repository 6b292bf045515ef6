import DuckGlue.Catalog.GluePartitionFunctions
import DuckGlue.Catalog.TruthfulGlue
import DuckGlue.Lib.IndependentSteps

/-! # Several actions in one statement

glue_alter_table checks its actions against what Glue holds before it applies the first of
them. Partitions to add and to drop are collected and go out together.
-/

namespace DuckGlue

open StringUtil FailingRuns GluePartitionFunctions

variable {Target Rest : Type}

/-- `GluePartitionTarget`: the table as it was fetched. -/
structure GluePartitionTarget (Target Rest : Type) where
  table : AwsTable Target Rest
  schemaName : Text

/-- A row of glue_alter_table; what is missing is NULL. -/
structure EmittedRow where
  action : Text
  partition : Option Text
  location : Option Text
  deriving Repr, DecidableEq

namespace GlueAlterStep

/-- `DescribeAction` -/
def describeAction : GlueAlterStep → Text
  | .add _ _ _ => "add partition"
  | .drop _ _ => "drop partition"
  | .rename _ _ => "rename partition"
  | .setPartitionLocation _ _ _ => "set partition location"
  | .setTableLocation _ => "set table location"

def isAdd : GlueAlterStep → Bool
  | .add _ _ _ => true
  | _ => false

def isDrop : GlueAlterStep → Bool
  | .drop _ _ => true
  | _ => false

/-- `step.values` -/
def values : GlueAlterStep → List Text
  | .add values _ _ | .drop values _ | .rename values _ | .setPartitionLocation values _ _ => values
  | .setTableLocation _ => []

/-- `step.location` -/
def location : GlueAlterStep → Text
  | .add _ location _ | .setPartitionLocation _ location _ | .setTableLocation location => location
  | .drop _ _ | .rename _ _ => []

/-- The row of `emit`. -/
def emittedRow (step : GlueAlterStep) : EmittedRow where
  action := step.describeAction
  partition := if step.values = [] then none else some (join step.values ", ")
  location := if step.location = [] then none else some step.location

/-- The partition whose existence is looked up before anything is changed. -/
def lookup : GlueAlterStep → Option (List Text)
  | .add values _ ifNotExists => if ifNotExists then none else some values
  | .drop values ifExists => if ifExists then none else some values
  | .rename _ newValues => some newValues
  | .setPartitionLocation _ _ _ | .setTableLocation _ => none

/-- The partitions an action is about. -/
def names : GlueAlterStep → List (List Text)
  | .add values _ _ | .drop values _ | .setPartitionLocation values _ _ => [values]
  | .rename values newValues => [values, newValues]
  | .setTableLocation _ => []

end GlueAlterStep

/-- What `GlueAlterTableApply` keeps from one action to the next. -/
structure AlterProgress where
  pendingAdds : List GluePartitionInput := []
  pendingDrops : List (List Text) := []
  tableUpdated : Bool := false
  rows : List EmittedRow := []

namespace GluePartitionFunctions

section Apply

variable (server : GlueServer Target Rest) (access : GlueAccess) (target : GluePartitionTarget Target Rest)

/-- `GluePartitionTarget::TableName` -/
def GluePartitionTarget.tableName (target : GluePartitionTarget Target Rest) : Text :=
  target.schemaName ++ "." ++ target.table.name

def alreadyExists (values : List Text) : Exception :=
  .catalog ("Partition [" ++ join values ", " ++ "] already exists in Glue table '" ++
    GluePartitionTarget.tableName target ++ "'")

def doesNotExist (values : List Text) : Exception :=
  .catalog ("Partition [" ++ join values ", " ++ "] does not exist in Glue table '" ++
    GluePartitionTarget.tableName target ++ "'")

/-- `FetchPartition` -/
def fetchPartition (values : List Text) : GlueRun Target Rest (GluePartitionDetails Rest) := do
  match ← GlueRun.getPartition server target.schemaName target.table.name values with
  | some partition => return partition
  | none => throw (doesNotExist target values)

/-- `ThrowIfPartitionExists` -/
def throwIfPartitionExists (values : List Text) : GlueRun Target Rest Unit := do
  match ← GlueRun.getPartition server target.schemaName target.table.name values with
  | some _ => throw (alreadyExists target values)
  | none => return ()

/-- The lookups of the actions: each partition once, in order. -/
def lookups (steps : List GlueAlterStep) : List (List Text) :=
  (steps.filterMap GlueAlterStep.lookup).dedup.insertionSort (· ≤ ·)

/-- The check of an action, with the partition it rewrites. -/
def checkStep (existing : List (List Text)) : GlueAlterStep → GlueRun Target Rest (Option (GluePartitionDetails Rest))
  | .add values _ ifNotExists => do
      if !ifNotExists && values ∈ existing then throw (alreadyExists target values)
      return none
  | .drop values ifExists => do
      if !ifExists && values ∉ existing then throw (doesNotExist target values)
      return none
  | .setPartitionLocation values _ ifExists => do
      if ifExists then return none
      return some (← fetchPartition server target values)
  | .rename values newValues => do
      let partition ← fetchPartition server target values
      if newValues ∈ existing then throw (alreadyExists target newValues)
      return some partition
  | .setTableLocation _ => return none

def flushAdds (progress : AlterProgress) : GlueRun Target Rest AlterProgress := do
  if progress.pendingAdds.isEmpty then return progress
  let _ ← GlueRun.batchCreatePartitions server access target.schemaName target.table progress.pendingAdds
  return { progress with pendingAdds := [] }

def flushDrops (progress : AlterProgress) : GlueRun Target Rest AlterProgress := do
  if progress.pendingDrops.isEmpty then return progress
  GlueRun.batchDeletePartitions server access target.schemaName target.table.name progress.pendingDrops
  return { progress with pendingDrops := [] }

/-- The partition of an action that was not checked is fetched when it is applied. -/
def fetchedFor (values : List Text) : Option (GluePartitionDetails Rest) →
    GlueRun Target Rest (GluePartitionDetails Rest)
  | some partition => return partition
  | none => fetchPartition server target values

/-- The table a new location is given to: after an earlier action has replaced the
definition, the one fetched again, since Glue refuses an update of an older version. -/
def tableToUpdate (tableUpdated : Bool) : GlueRun Target Rest (AwsTable Target Rest) := do
  if !tableUpdated then return target.table
  match ← GlueRun.getTable server target.schemaName target.table.name with
  | some table => return table
  | none => throw (.catalog ("Glue table '" ++ GluePartitionTarget.tableName target ++ "' was dropped while it was altered"))

/-- What an action does when those before it have gone out as far as they have to. -/
def performStep (progress : AlterProgress) (checked : Option (GluePartitionDetails Rest)) :
    GlueAlterStep → GlueRun Target Rest AlterProgress
  | .add values location _ => return { progress with pendingAdds := progress.pendingAdds ++ [⟨values, location⟩] }
  | .drop values _ =>
      -- a partition named twice is deleted once
      return if values ∈ progress.pendingDrops then progress
        else { progress with pendingDrops := progress.pendingDrops ++ [values] }
  | .rename values newValues => do
      let partition ← fetchedFor server target values checked
      let _ ← GlueRun.renamePartition server access target.schemaName target.table.name partition newValues
      return progress
  | .setPartitionLocation values location _ => do
      let partition ← fetchedFor server target values checked
      GlueRun.setPartitionLocation server access target.schemaName target.table.name partition location
      return progress
  | .setTableLocation location => do
      let table ← tableToUpdate server target progress.tableUpdated
      GlueRun.setTableLocation server access target.schemaName target.table.name table location
      return { progress with tableUpdated := true }

/-- Only another add leaves the adds pending. -/
def flushAddsBefore (step : GlueAlterStep) (progress : AlterProgress) : GlueRun Target Rest AlterProgress :=
  if step.isAdd then return progress else flushAdds server access target progress

def flushDropsBefore (step : GlueAlterStep) (progress : AlterProgress) : GlueRun Target Rest AlterProgress :=
  if step.isDrop then return progress else flushDrops server access target progress

/-- An action of the loop in `GlueAlterTableApply`. -/
def applyStep (progress : AlterProgress) (action : GlueAlterStep × Option (GluePartitionDetails Rest)) :
    GlueRun Target Rest AlterProgress := do
  let progress ← flushAddsBefore server access target action.1 progress
  let progress ← flushDropsBefore server access target action.1 progress
  let progress ← performStep server access target progress action.2 action.1
  return { progress with rows := progress.rows ++ [action.1.emittedRow] }

/-- `GlueAlterTableApply`: the rows it reports. -/
def glueAlterTableApply (steps : List GlueAlterStep) : GlueRun Target Rest (List EmittedRow) := do
  let existing ← GlueRun.existingPartitions server target.schemaName target.table.name (lookups steps)
  let checked ← steps.mapM (checkStep server target existing)
  let progress ← (steps.zip checked).foldlM (applyStep server access target) {}
  let progress ← flushAdds server access target progress
  let progress ← flushDrops server access target progress
  return progress.rows

end Apply

section Single

variable (server : GlueServer Target Rest) (access : GlueAccess) (target : GluePartitionTarget Target Rest)

/-- `GlueAddPartitionScan` -/
def glueAddPartitionScan (values : List Text) (location : Text) (ifNotExists : Bool) : GlueRun Target Rest Text := do
  let _ ← GlueRun.createPartition server access target.schemaName target.table.name target.table ⟨values, location⟩
    ifNotExists
  return location

/-- `GlueDropPartitionScan` -/
def glueDropPartitionScan (values : List Text) (ifExists : Bool) : GlueRun Target Rest Bool := do
  let dropped ← GlueRun.deletePartition server access target.schemaName target.table.name values
  if !dropped && !ifExists then throw (doesNotExist target values)
  return dropped

/-- `GlueRenamePartitionScan` -/
def glueRenamePartitionScan (values newValues : List Text) : GlueRun Target Rest Text := do
  let partition ← fetchPartition server target values
  throwIfPartitionExists server target newValues
  GlueRun.renamePartition server access target.schemaName target.table.name partition newValues

/-- `GlueSetPartitionLocationScan` -/
def glueSetPartitionLocationScan (values : List Text) (location : Text) : GlueRun Target Rest Text := do
  let partition ← fetchPartition server target values
  GlueRun.setPartitionLocation server access target.schemaName target.table.name partition location
  return location

/-- `GlueSetTableLocationScan` -/
def glueSetTableLocationScan (location : Text) : GlueRun Target Rest Text := do
  GlueRun.setTableLocation server access target.schemaName target.table.name target.table location
  return location

/-- The statement about one thing that an action stands for. -/
def singleStatement : GlueAlterStep → GlueRun Target Rest Unit
  | .add values location ifNotExists => do
      let _ ← glueAddPartitionScan server access target values location ifNotExists
  | .drop values ifExists => do
      let _ ← glueDropPartitionScan server access target values ifExists
  | .rename values newValues => do
      let _ ← glueRenamePartitionScan server access target values newValues
  | .setPartitionLocation values location _ => do
      let _ ← glueSetPartitionLocationScan server access target values location
  | .setTableLocation location => do
      let _ ← glueSetTableLocationScan server access target location

end Single

end GluePartitionFunctions

namespace GlueAlterStep

/-- What an action does by itself, where it can be done. -/
def effect (t : PartitionedTable Target Rest) : GlueAlterStep → Option (PartitionedTable Target Rest)
  | .add values location ifNotExists =>
      if (t.partitions values).isSome && !ifNotExists then none else some (t.add ⟨values, location⟩)
  | .drop values ifExists =>
      if (t.partitions values).isSome || ifExists then some (t.erase values) else none
  | .rename values newValues =>
      match t.partitions values, t.partitions newValues with
      | some partition, none => some (t.replace values { partition with values := newValues })
      | _, _ => none
  | .setPartitionLocation values location _ =>
      (t.partitions values).map fun partition =>
        t.replace values
          { partition with
            values := values
            storageDescriptor := { partition.storageDescriptor with location := location } }
  | .setTableLocation location => some (t.relocate location)

/-- The definition after an action. -/
def definitionAfter (definition : AwsTableInput Target Rest) : GlueAlterStep → AwsTableInput Target Rest
  | .setTableLocation location =>
      { definition with storageDescriptor := { definition.storageDescriptor with location := location } }
  | .add _ _ _ | .drop _ _ | .rename _ _ | .setPartitionLocation _ _ _ => definition

section Effects

variable {t t' : PartitionedTable Target Rest} {step : GlueAlterStep} {values : List Text}

theorem effect_definition (done : step.effect t = some t') : t'.definition = step.definitionAfter t.definition := by
  cases step with
  | add values location ifNotExists =>
      simp only [effect] at done
      split_ifs at done
      cases done
      rfl
  | drop values ifExists =>
      simp only [effect] at done
      split_ifs at done
      cases done
      rfl
  | rename values newValues =>
      simp only [effect] at done
      split at done
      · cases done
        rfl
      · cases done
  | setPartitionLocation values location ifExists =>
      obtain ⟨partition, _, rfl⟩ := Option.map_eq_some_iff.mp done
      rfl
  | setTableLocation location =>
      cases done
      rfl

/-- An action leaves the partitions it is not about. -/
theorem effect_frame (done : step.effect t = some t') (other : values ∉ step.names) :
    t'.partitions values = t.partitions values := by
  cases step with
  | add own location ifNotExists =>
      simp only [effect] at done
      split_ifs at done
      cases done
      have differs : values ≠ own := fun same => other (same ▸ List.mem_singleton_self own)
      simp only [PartitionedTable.add, if_neg differs]
      cases t.partitions values <;> rfl
  | drop own ifExists =>
      simp only [effect] at done
      split_ifs at done
      cases done
      have differs : values ≠ own := fun same => other (same ▸ List.mem_singleton_self own)
      exact if_neg differs
  | rename own newValues =>
      simp only [effect] at done
      split at done
      · cases done
        simp only [names, List.mem_cons, List.not_mem_nil, or_false, not_or] at other
        simp only [PartitionedTable.replace, if_neg other.1, if_neg other.2]
      · cases done
  | setPartitionLocation own location ifExists =>
      obtain ⟨partition, _, rfl⟩ := Option.map_eq_some_iff.mp done
      have differs : values ≠ own := fun same => other (same ▸ List.mem_singleton_self own)
      simp only [PartitionedTable.replace, if_neg differs]
  | setTableLocation location =>
      cases done
      rfl

/-- Two states look the same to an action. -/
def Agrees (step : GlueAlterStep) (t t' : PartitionedTable Target Rest) : Prop :=
  (∀ values ∈ step.names, t'.partitions values = t.partitions values) ∧
    ∀ location, { t'.definition.storageDescriptor with location := location } =
      { t.definition.storageDescriptor with location := location }

theorem Agrees.enabled (agrees : step.Agrees t t') : (step.effect t').isSome ↔ (step.effect t).isSome := by
  have same := agrees.1
  cases step with
  | add values location ifNotExists =>
      simp only [effect, same values (List.mem_singleton_self values)]
      split_ifs <;> simp
  | drop values ifExists =>
      simp only [effect, same values (List.mem_singleton_self values)]
      split_ifs <;> simp
  | rename values newValues =>
      simp only [effect, same values List.mem_cons_self, same newValues (List.mem_cons_of_mem _ List.mem_cons_self)]
      cases t.partitions values <;> cases t.partitions newValues <;> simp
  | setPartitionLocation values location ifExists =>
      simp only [effect, same values (List.mem_singleton_self values), Option.isSome_map]
  | setTableLocation location => simp [effect]

/-- An action does the same to its partitions in states that look the same to it. -/
theorem Agrees.local {after after' : PartitionedTable Target Rest} (agrees : step.Agrees t t')
    (done : step.effect t = some after) (done' : step.effect t' = some after') (own : values ∈ step.names) :
    after'.partitions values = after.partitions values := by
  obtain ⟨same, descriptor⟩ := agrees
  cases step with
  | add named location ifNotExists =>
      simp only [effect] at done done'
      split_ifs at done done'
      cases done
      cases done'
      simp only [PartitionedTable.add, same values own, descriptor]
  | drop named ifExists =>
      simp only [effect] at done done'
      split_ifs at done done'
      cases done
      cases done'
      simp only [PartitionedTable.erase, same values own]
  | rename named newValues =>
      simp only [effect, same named List.mem_cons_self,
        same newValues (List.mem_cons_of_mem _ List.mem_cons_self)] at done done'
      split at done
      · rename_i partition there free
        cases done
        rw [there, free] at done'
        cases done'
        simp only [PartitionedTable.replace, same values own]
      · cases done
  | setPartitionLocation named location ifExists =>
      simp only [effect, same named (List.mem_singleton_self named)] at done done'
      obtain ⟨partition, found, rfl⟩ := Option.map_eq_some_iff.mp done
      obtain ⟨partition', found', rfl⟩ := Option.map_eq_some_iff.mp done'
      rw [found] at found'
      cases found'
      simp only [PartitionedTable.replace, same values own]
  | setTableLocation location => cases own

theorem definitionAfter_descriptor (definition : AwsTableInput Target Rest) (location : Text) :
    { (step.definitionAfter definition).storageDescriptor with location := location } =
      { definition.storageDescriptor with location := location } := by
  cases step <;> rfl

end Effects

/-- Two actions that are about different things. -/
def Apart (a b : GlueAlterStep) : Prop :=
  a.names.Disjoint b.names ∧
    ¬ ((∃ location, a = .setTableLocation location) ∧ ∃ location, b = .setTableLocation location)

theorem agrees_after {t t' : PartitionedTable Target Rest} {a b : GlueAlterStep} (disjoint : a.names.Disjoint b.names)
    (done : a.effect t = some t') : b.Agrees t t' := by
  constructor
  · intro values own
    exact effect_frame done fun other => disjoint other own
  · intro location
    rw [effect_definition done]
    exact definitionAfter_descriptor t.definition location

theorem definitionAfter_comm {a b : GlueAlterStep} (apart : a.Apart b) (definition : AwsTableInput Target Rest) :
    b.definitionAfter (a.definitionAfter definition) = a.definitionAfter (b.definitionAfter definition) := by
  cases a with
  | setTableLocation location =>
      cases b with
      | setTableLocation other => exact absurd ⟨⟨location, rfl⟩, ⟨other, rfl⟩⟩ apart.2
      | add | drop | rename | setPartitionLocation => rfl
  | add | drop | rename | setPartitionLocation => rfl

/-- Actions about different things are independent. -/
theorem Apart.independent {a b : GlueAlterStep} (apart : a.Apart b) :
    Independent (fun (t : PartitionedTable Target Rest) step => effect t step) a b where
  later done := (agrees_after apart.1 done).enabled
  commutes t := by
    have aLater := fun {t' : PartitionedTable Target Rest} (done : a.effect t = some t') =>
      (agrees_after apart.1 done).enabled
    have bLater := fun {t' : PartitionedTable Target Rest} (done : b.effect t = some t') =>
      (agrees_after apart.1.symm done).enabled
    cases first : a.effect t with
    | none =>
        cases second : b.effect t with
        | none => rfl
        | some t₂ =>
            have disabled := bLater second
            rw [first] at disabled
            cases later : a.effect t₂ with
            | none => simp [later]
            | some _ => rw [later] at disabled; cases disabled.mp rfl
    | some t₁ =>
        have enabled := aLater first
        cases second : b.effect t with
        | none =>
            rw [second] at enabled
            cases later : b.effect t₁ with
            | none => simp [later]
            | some _ => rw [later] at enabled; cases enabled.mp rfl
        | some t₂ =>
            rw [second] at enabled
            obtain ⟨t₁₂, both⟩ := Option.isSome_iff_exists.mp (enabled.mpr rfl)
            have enabled' := bLater second
            rw [first] at enabled'
            obtain ⟨t₂₁, both'⟩ := Option.isSome_iff_exists.mp (enabled'.mpr rfl)
            rw [Option.bind_some, Option.bind_some, both, both']
            congr 1
            have definitions : t₁₂.definition = t₂₁.definition := by
              rw [effect_definition both, effect_definition first, effect_definition both', effect_definition second]
              exact definitionAfter_comm apart t.definition
            have partitions : t₁₂.partitions = t₂₁.partitions := by
              funext values
              by_cases own : values ∈ a.names
              · have other : values ∉ b.names := fun there => apart.1 own there
                rw [effect_frame both other, (agrees_after apart.1.symm second).local first both' own]
              · rw [effect_frame both' own]
                by_cases there : values ∈ b.names
                · exact (agrees_after apart.1 first).local second both there
                · rw [effect_frame both there, effect_frame first own, effect_frame second there]
            cases t₁₂
            cases t₂₁
            cases definitions
            cases partitions
            rfl

end GlueAlterStep

end DuckGlue
