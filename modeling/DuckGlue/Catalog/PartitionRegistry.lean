import DuckGlue.Api.PartitionBatches
import DuckGlue.Api.PartitionLocations
import DuckGlue.Catalog.TableInput
import DuckGlue.Lib.FailingRuns

/-! # The partitions Glue holds of a table

What the requests about a table and its partitions do to what Glue holds, whatever Glue
answers them. A request that fails leaves what the ones before it did, and may itself have
been done before its answer was lost.
-/

namespace DuckGlue

open StringUtil BatchedRequests FailingRuns

/-- The types of errors that are told apart. -/
inductive AwsErrorType where
  | entityNotFound
  | alreadyExists
  | concurrentModification
  | other
  deriving Repr, DecidableEq

/-- `GetError` of an outcome that is no success. -/
structure AwsError where
  type : AwsErrorType
  exceptionName : Text
  message : Text
  deriving Repr, DecidableEq

/-- `Aws::Glue::Model::Partition`: the fields that are sent back in a `PartitionInput`. -/
structure AwsPartition (Rest : Type) where
  values : List Text
  storageDescriptor : AwsStorageDescriptor Rest
  parameters : Parameters := ∅

/-- `GluePartitionDetails`: the partition it was made from is `fetched`. -/
structure GluePartitionDetails (Rest : Type) extends GluePartitionInfo where
  parameters : Parameters
  fetched : AwsPartition Rest

/-- A partition as `GetPartition` gives it. -/
def toPartitionDetails {Rest : Type} (partition : AwsPartition Rest) : GluePartitionDetails Rest where
  values := partition.values
  location := partition.storageDescriptor.location
  inputFormat := partition.storageDescriptor.inputFormat
  serdeLibrary := partition.storageDescriptor.serdeLibrary
  serdeParameters := partition.storageDescriptor.serdeParameters
  partitionColumns := partition.storageDescriptor.columns.map toColumn
  parameters := partition.parameters
  fetched := partition

/-- A table with its partitions by their values. -/
structure HeldTable (Target Rest : Type) where
  table : AwsTable Target Rest
  partitions : List Text → Option (AwsPartition Rest)
  keyed : ∀ {values partition}, partitions values = some partition → partition.values = values

namespace HeldTable

variable {Target Rest : Type} (held : HeldTable Target Rest)

def registered (values : List Text) : Prop := (held.partitions values).isSome = true

def locations (values : List Text) : Option Text := (held.partitions values).map (·.storageDescriptor.location)

/-- The partition in the place of those of the keys. -/
def replace (keys : List (List Text)) (partition : AwsPartition Rest) : HeldTable Target Rest where
  table := held.table
  partitions values :=
    if values = partition.values then some partition else if values ∈ keys then none else held.partitions values
  keyed := by
    intro values given found
    split_ifs at found with same
    · cases found
      exact same.symm
    · exact held.keyed found

def erase (keys : List (List Text)) : HeldTable Target Rest where
  table := held.table
  partitions values := if values ∈ keys then none else held.partitions values
  keyed := by
    intro values given found
    split_ifs at found
    exact held.keyed found

/-- The partitions created with a descriptor, the first of several of the same values. -/
def create (descriptor : AwsStorageDescriptor Rest) (created : List GluePartitionInput) : HeldTable Target Rest where
  table := held.table
  partitions values :=
    match created.find? fun partition => partition.values = values with
    | some partition => some { values, storageDescriptor := { descriptor with location := partition.location } }
    | none => held.partitions values
  keyed := by
    intro values given found
    split at found
    · cases found
      rfl
    · exact held.keyed found

end HeldTable

/-- What Glue answers, by what it holds and the number of calls before. It may refuse
anything; what it answers is about what it was asked for. A batched call has several
requests, which are numbered. -/
structure GlueServer (Target Rest : Type) where
  getTable : ℕ → HeldTable Target Rest → Except AwsError (AwsTable Target Rest)
  /-- The version and the time of the table after an update. -/
  updateTable : ℕ → HeldTable Target Rest → AwsTableInput Target Rest → Option Text → Except AwsError (Text × Int)
  getPartition : ℕ → HeldTable Target Rest → List Text → Except AwsError (AwsPartition Rest)
  createPartition : ℕ → HeldTable Target Rest → AwsPartition Rest → Except AwsError Unit
  deletePartition : ℕ → HeldTable Target Rest → List Text → Except AwsError Unit
  updatePartition : ℕ → HeldTable Target Rest → List Text → AwsPartition Rest → Except AwsError Unit
  batchGetPartition : ℕ → HeldTable Target Rest → ℕ → List (List Text) → Except Exception LocationsAnswer
  batchCreatePartition : ℕ → HeldTable Target Rest → ℕ → List GluePartitionInput → PartitionAnswer
  batchDeletePartition : ℕ → HeldTable Target Rest → ℕ → List (List Text) → PartitionAnswer
  /-- A partition is changed as asked though the answer is an error. -/
  changedAnyway : ℕ → HeldTable Target Rest → List Text → Bool
  /-- The version and the time of a table that is updated though the answer is an error. -/
  updatedAnyway : ℕ → HeldTable Target Rest → AwsTableInput Target Rest → Option (Text × Int)
  partitionAskedFor : ∀ {moment held values partition},
    getPartition moment held values = .ok partition → partition.values = values
  unprocessedAskedFor : ∀ {moment held n keys answer},
    batchGetPartition moment held n keys = .ok answer → answer.unprocessed.length ≤ keys.length
  errorsAskedFor : ∀ {moment held n request errors},
    batchDeletePartition moment held n request = .ok errors → ∀ error ∈ errors, error.values ∈ request

/-- What Glue holds, and the number of calls so far. -/
structure GlueState (Target Rest : Type) where
  held : HeldTable Target Rest
  moment : ℕ

/-- A run of requests, which may throw. -/
abbrev GlueRun (Target Rest α : Type) := EStateM Exception (GlueState Target Rest) α

/-- What the requests read of the catalog and its settings. -/
structure GlueAccess where
  name : Text
  readOnly : Bool
  /-- glue_debug_fail_partition_registration -/
  injected : Option InjectedPartitionFailure := none

/-- `CheckWritable` -/
def checkWritable (access : GlueAccess) (operation : Text) : Except Exception Unit :=
  if access.readOnly then
    .error (.invalidInput ("Cannot execute Glue " ++ operation ++ " on database " ++ access.name ++
      " which is attached in read-only mode!"))
  else .ok ()

/-- `ThrowGlueError` -/
def glueError (error : AwsError) (operation : Text) : Exception :=
  .io ("Glue " ++ operation ++ " failed: " ++ error.message ++ " (" ++ error.exceptionName ++ ")")

/-- What BatchDeletePartition deleted: everything sent that no error names. -/
def deletedBy (calls : List (Call (List Text) PartitionAnswer)) : List (List Text) :=
  calls.flatMap fun call =>
    match call.answer with
    | .error _ => []
    | .ok errors => call.request.filter fun values => errors.all fun error => error.values ≠ values

/-- What was sent that the answers do not give as done: all of a request that failed, and
what an error names. -/
def refusedBy {Item : Type} (values : Item → List Text) (calls : List (Call Item PartitionAnswer)) : List Item :=
  calls.flatMap fun call =>
    match call.answer with
    | .error _ => call.request
    | .ok errors => call.request.filter fun item => errors.any fun error => error.values = values item

namespace GlueRun

variable {Target Rest α : Type}

/-- A request that changes nothing. -/
def ask (answer : ℕ → HeldTable Target Rest → Except AwsError α) : GlueRun Target Rest (Except AwsError α) := fun s =>
  .ok (answer s.moment s.held) ⟨s.held, s.moment + 1⟩

/-- A request, with what Glue holds after it; `anyway` is what it has come to though its
answer is an error. -/
def request (answer : ℕ → HeldTable Target Rest → Except AwsError α) (anyway : ℕ → HeldTable Target Rest → Option α)
    (after : HeldTable Target Rest → α → HeldTable Target Rest) : GlueRun Target Rest (Except AwsError α) := fun s =>
  match answer s.moment s.held with
  | .error error =>
      match anyway s.moment s.held with
      | none => .ok (.error error) ⟨s.held, s.moment + 1⟩
      | some a => .ok (.error error) ⟨after s.held a, s.moment + 1⟩
  | .ok a => .ok (.ok a) ⟨after s.held a, s.moment + 1⟩

/-- A check before a request. -/
def checked (check : Except Exception α) : GlueRun Target Rest α := fun s =>
  match check with
  | .error refused => .error refused s
  | .ok a => .ok a s

variable (server : GlueServer Target Rest) (access : GlueAccess) (schemaName tableName : Text)

/-- The table in the texts of errors. -/
def qualifiedName : Text := "'" ++ schemaName ++ "." ++ tableName ++ "'"

/-- `GetTable` -/
def getTable : GlueRun Target Rest (Option (AwsTable Target Rest)) := do
  match ← ask server.getTable with
  | .ok table => return some table
  | .error error =>
      if error.type = .entityNotFound then return none
      throw (glueError error ("GetTable " ++ qualifiedName schemaName tableName))

/-- `GetPartition` -/
def getPartition (values : List Text) : GlueRun Target Rest (Option (GluePartitionDetails Rest)) := do
  match ← ask fun moment held => server.getPartition moment held values with
  | .ok partition => return some (toPartitionDetails partition)
  | .error error =>
      if error.type = .entityNotFound then return none
      throw (glueError error ("GetPartition " ++ qualifiedName schemaName tableName ++ " [" ++
        partitionValuesToString values ++ "]"))

/-- A change of a partition that is made though the answer is an error. -/
def changedAnyway (values : List Text) (moment : ℕ) (held : HeldTable Target Rest) : Option Unit :=
  if server.changedAnyway moment held values then some () else none

/-- `CreatePartition`: whether it created the partition. -/
def createPartition (table : AwsTable Target Rest) (partition : GluePartitionInput) (ifNotExists : Bool) :
    GlueRun Target Rest Bool := do
  checked (checkWritable access "CreatePartition")
  let input : AwsPartition Rest :=
    { values := partition.values, storageDescriptor := { table.storageDescriptor with location := partition.location } }
  match ← request (fun moment held => server.createPartition moment held input)
      (changedAnyway server partition.values) fun held _ => held.create table.storageDescriptor [partition] with
  | .ok () => return true
  | .error error =>
      if error.type = .alreadyExists then
        if ifNotExists then return false
        throw (.catalog ("Partition [" ++ partitionValuesToString partition.values ++ "] already exists in Glue table " ++
          qualifiedName schemaName tableName))
      throw (glueError error ("CreatePartition " ++ qualifiedName schemaName tableName ++ " [" ++
        partitionValuesToString partition.values ++ "]"))

/-- `DeletePartition`: whether it deleted the partition. -/
def deletePartition (values : List Text) : GlueRun Target Rest Bool := do
  checked (checkWritable access "DeletePartition")
  match ← request (fun moment held => server.deletePartition moment held values) (changedAnyway server values)
      fun held _ => held.erase [values] with
  | .ok () => return true
  | .error error =>
      if error.type = .entityNotFound then return false
      throw (glueError error ("DeletePartition " ++ qualifiedName schemaName tableName ++ " [" ++
        partitionValuesToString values ++ "]"))

/-- The UpdatePartition request of `SetPartitionLocation` and `RenamePartition`. -/
def updatePartition (partition : GluePartitionDetails Rest) (input : AwsPartition Rest) (shown : Text) :
    GlueRun Target Rest Unit := do
  checked (checkWritable access "UpdatePartition")
  match ← request (fun moment held => server.updatePartition moment held partition.values input)
      (changedAnyway server partition.values) fun held _ => held.replace [partition.values] input with
  | .ok () => return ()
  | .error error => throw (glueError error ("UpdatePartition " ++ qualifiedName schemaName tableName ++ " " ++ shown))

/-- `SetPartitionLocation` -/
def setPartitionLocation (partition : GluePartitionDetails Rest) (location : Text) : GlueRun Target Rest Unit :=
  let input : AwsPartition Rest :=
    { values := partition.fetched.values
      storageDescriptor := { partition.fetched.storageDescriptor with location := location }
      parameters := partition.fetched.parameters }
  updatePartition server access schemaName tableName partition input
    ("[" ++ partitionValuesToString partition.values ++ "]")

/-- `RenamePartition`: the location the partition keeps. -/
def renamePartition (partition : GluePartitionDetails Rest) (newValues : List Text) : GlueRun Target Rest Text := do
  let input : AwsPartition Rest :=
    { values := newValues
      storageDescriptor := partition.fetched.storageDescriptor
      parameters := partition.fetched.parameters }
  updatePartition server access schemaName tableName partition input
    ("[" ++ partitionValuesToString partition.values ++ "] -> [" ++ partitionValuesToString newValues ++ "]")
  return partition.location

/-- `SetTableLocation`: the update names the version the table was fetched with. -/
def setTableLocation (bound : AwsTable Target Rest) (location : Text) : GlueRun Target Rest Unit := do
  checked (checkWritable access "UpdateTable")
  let input := GlueAPI.updateGlueTable bound (GlueAPI.modify · (.location location))
  match ← request (fun moment held => server.updateTable moment held input bound.versionId)
      (fun moment held => server.updatedAnyway moment held input) fun held version =>
        { held with table := .ofInput input version.1 version.2 } with
  | .ok _ => return ()
  | .error error =>
      if error.type = .concurrentModification then
        throw ⟨.transaction, "Glue table \"" ++ schemaName ++ "." ++ tableName ++
          "\" was changed by another client since it was read, run the statement again"⟩
      throw (glueError error ("UpdateTable " ++ qualifiedName schemaName tableName))

/-- `ExistingPartitions`: the keys of `PartitionLocations`, whose requests end as no answer
leaves more than was asked for. -/
def existingPartitions (partitions : List (List Text)) : GlueRun Target Rest (List (List Text)) := fun s =>
  match GlueAPI.partitionLocations schemaName tableName (server.batchGetPartition s.moment s.held)
      (4 * partitions.length + 1) partitions with
  | some (_, .ok existing) => .ok existing.keys ⟨s.held, s.moment + 1⟩
  | some (_, .error failed) => .error failed ⟨s.held, s.moment + 1⟩
  | none => .error (.internal []) ⟨s.held, s.moment + 1⟩

/-- `BatchCreatePartitions` -/
def batchCreatePartitions (table : AwsTable Target Rest) (partitions : List GluePartitionInput) :
    GlueRun Target Rest (List GluePartitionInput) := fun s =>
  let (sent, result) := GlueAPI.batchCreatePartitions (toTableInfo table schemaName) access.injected
    (server.batchCreatePartition s.moment s.held) (checkWritable access "BatchCreatePartition") true partitions
  let anyway := ((refusedBy (·.1.values) sent.calls).map (·.1)).filter fun partition =>
    server.changedAnyway s.moment s.held partition.values
  let after : GlueState Target Rest :=
    ⟨s.held.create table.storageDescriptor (GlueAPI.createdBy sent.calls ++ anyway), s.moment + 1⟩
  match result with
  | .ok existing => .ok existing after
  | .error failed => .error failed after

/-- `BatchDeletePartitions` -/
def batchDeletePartitions (partitions : List (List Text)) : GlueRun Target Rest Unit := fun s =>
  let (calls, result) := GlueAPI.batchDeletePartitions schemaName tableName
    (server.batchDeletePartition s.moment s.held) (checkWritable access "BatchDeletePartition") partitions
  let anyway := (refusedBy id calls).filter (server.changedAnyway s.moment s.held)
  let after : GlueState Target Rest := ⟨s.held.erase (deletedBy calls ++ anyway), s.moment + 1⟩
  match result with
  | .ok () => .ok () after
  | .error failed => .error failed after

end GlueRun

end DuckGlue
