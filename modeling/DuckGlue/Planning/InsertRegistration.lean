import DuckGlue.Api.PartitionBatches
import DuckGlue.Api.PartitionLocations
import DuckGlue.Planning.InsertReadsBack

/-! # Registering what an INSERT wrote

After the copy the directories written to are registered, while other clients write too
and requests fail in any way. The INSERT ends with every directory registered for its
values, or its files are removed.
-/

namespace DuckGlue

open StringUtil Fallible BatchedRequests

/-- What Glue and the file system answer. -/
structure FinalizeAnswers where
  /-- `CheckWritable` -/
  writable : Except Exception Unit
  /-- Whether the definition was fetched when the statement was planned: not for a table it creates. -/
  fetched : Bool
  getTable : Except Exception (Option GlueTableInfo)
  injected : Option InjectedPartitionFailure
  create : ℕ → List GluePartitionInput → PartitionAnswer
  locate : ℕ → List (List Text) → Except Exception LocationsAnswer
  removeFiles : List Text → Except Exception Unit

/-- What `Finalize` did: what it sent and looked up, and the files it had removed. -/
structure FinalizeRun where
  created : GlueAPI.CreateState := {}
  located : Locations := ∅
  removed : Option (List Text) := none
  result : Except Exception Unit

namespace GlueHiveInsert

section Run

variable (hive : HivePartitioning) (table : GlueTableInfo) (answers : FinalizeAnswers) (fuel : ℕ)

/-- `CheckExistingPartitionLocations`, with what it looked up. -/
def checkRegistered (plannedLocations : List (List Text × Text)) (alreadyExisting : List GluePartitionInput) :
    Option (Locations × Except Exception Unit) :=
  match alreadyExisting.forM (checkPlanned plannedLocations) with
  | .error refused => some (∅, .error refused)
  | .ok () =>
      let missing := unplanned plannedLocations alreadyExisting
      if missing.isEmpty then some (∅, .ok ())
      else
        match GlueAPI.partitionLocations table.schemaName table.name answers.locate fuel (missing.map (·.values)) with
        | none => none
        | some (_, .error failed) => some (∅, .error failed)
        | some (_, .ok locations) => some (locations, missing.forM (checkUnplanned locations.lookup))

/-- The definition to register with: the one bound, or the created table's. -/
def registeredDefinition : Except Exception GlueTableInfo :=
  if answers.fetched then .ok table
  else
    match answers.getTable with
    | .error failed => .error failed
    | .ok none => .error (.catalog ("Table \"" ++ table.schemaName ++ "." ++ table.name ++
        "\" was created but could not be fetched afterwards"))
    | .ok (some created) => .ok created

/-- What `Finalize` tries; where it throws the files are removed. -/
def register (plannedLocations : List (List Text × Text)) (toRegister : List GluePartitionInput) :
    Option (GlueAPI.CreateState × Locations × Except Exception Unit) :=
  match registeredDefinition table answers with
  | .error failed => some ({}, ∅, .error failed)
  | .ok definition =>
      match GlueAPI.batchCreatePartitions definition answers.injected answers.create answers.writable true toRegister with
      | (created, .error failed) => some (created, ∅, .error failed)
      | (created, .ok alreadyExisting) =>
          (checkRegistered table answers fuel plannedLocations alreadyExisting).map fun checked =>
            (created, checked.1, checked.2)

/-- What an INSERT is reported with whose files could not be deleted. -/
def notRolledBack (error removing : Exception) (files : ℕ) : Exception :=
  .io ("INSERT into Hive table '" ++ table.schemaName ++ "." ++ table.name ++ "' failed: " ++ error.message ++
    ". Deleting the " ++ (toString files).toList ++ " files it wrote failed too (" ++ removing.message ++
    "); remove them before running it again")

/-- `Finalize`: `iterate` is the order in which the map of the directories is gone through. -/
def finalizeRun {Value : Type} (path : PartitionPath Value)
    (iterate : List GluePartitionInput → List GluePartitionInput) (writtenFiles : List Text) : Option FinalizeRun :=
  if table.partitionKeys = [] ∨ writtenFiles = [] then some { result := .ok () }
  else
    match registrations hive table path.partitionDirectories writtenFiles [] with
    | .error malformed => some { result := .error malformed }
    | .ok toRegister =>
        match register table answers fuel path.plannedLocations (iterate toRegister) with
        | none => none
        | some (created, located, .ok ()) => some { created, located, result := .ok () }
        | some (created, located, .error error) =>
            match answers.removeFiles writtenFiles with
            | .ok () => some ⟨created, located, some writtenFiles, .error (rolledBack table error)⟩
            | .error removing =>
                some ⟨created, located, some writtenFiles, .error (notRolledBack table error removing writtenFiles.length)⟩

end Run

section Check

variable {table : GlueTableInfo} {answers : FinalizeAnswers} {fuel : ℕ} {plannedLocations : List (List Text × Text)}
  {alreadyExisting : List GluePartitionInput} {lookup : List Text → Option Text}

/-- What `CheckExistingPartitionLocations` accepts: the location the plan saw, or else the
one looked up, is the directory written to. -/
def Accepted (plannedLocations : List (List Text × Text)) (lookup : List Text → Option Text)
    (partition : GluePartitionInput) : Prop :=
  ∃ registered, (plannedLocations.lookup partition.values <|> lookup partition.values) = some registered ∧
    comparableLocation registered = comparableLocation partition.location

theorem checkLocation_ok {partition : GluePartitionInput} {registered : Text}
    (checked : checkLocation partition registered = .ok ()) :
    comparableLocation registered = comparableLocation partition.location := by
  unfold checkLocation at checked
  split_ifs at checked with differs
  exact not_not.mp differs

theorem accepted_of_checks (planned : alreadyExisting.forM (checkPlanned plannedLocations) = .ok ())
    (looked : (unplanned plannedLocations alreadyExisting).forM (checkUnplanned lookup) = .ok ()) :
    ∀ partition ∈ alreadyExisting, Accepted plannedLocations lookup partition := by
  intro partition member
  cases known : plannedLocations.lookup partition.values with
  | some location =>
      have checked := forM_eq_ok.mp planned partition member
      rw [checkPlanned, known] at checked
      exact ⟨location, by rw [known]; rfl, checkLocation_ok checked⟩
  | none =>
      have missing : partition ∈ unplanned plannedLocations alreadyExisting :=
        List.mem_filter.mpr ⟨member, by rw [known]; rfl⟩
      have checked := forM_eq_ok.mp looked partition missing
      unfold checkUnplanned at checked
      split at checked
      · rename_i registered found
        exact ⟨registered, by rw [known]; exact found, checkLocation_ok checked⟩
      · cases checked

/-- The check ends, and what it lets pass it accepts. -/
theorem checkRegistered_accepts
    (shrinks : ∀ n keys answer, answers.locate n keys = .ok answer → answer.unprocessed.length ≤ keys.length)
    (enough : 4 * alreadyExisting.length < fuel) :
    ∃ located result, checkRegistered table answers fuel plannedLocations alreadyExisting = some (located, result) ∧
      (result = .ok () → ∀ partition ∈ alreadyExisting, Accepted plannedLocations located.lookup partition) := by
  unfold checkRegistered
  cases planned : alreadyExisting.forM (checkPlanned plannedLocations) with
  | error refused => exact ⟨_, _, rfl, fun ok => by cases ok⟩
  | ok passed =>
      dsimp only
      split_ifs with none
      · refine ⟨_, _, rfl, fun _ => ?_⟩
        apply accepted_of_checks planned
        rw [List.isEmpty_iff.mp none]
        rfl
      · have fewer : ((unplanned plannedLocations alreadyExisting).map (·.values)).length ≤ alreadyExisting.length := by
          rw [List.length_map]
          exact List.length_filter_le _ _
        have room : 4 * ((unplanned plannedLocations alreadyExisting).map (·.values)).length < fuel := by omega
        obtain ⟨s, result, looked⟩ := @GlueAPI.partitionLocations_ends table.schemaName table.name answers.locate _ fuel
          shrinks room
        rw [looked]
        cases result with
        | error failed => exact ⟨_, _, rfl, fun ok => by cases ok⟩
        | ok locations => exact ⟨_, _, rfl, fun ok => accepted_of_checks planned ok⟩

end Check

section Registrations

variable {hive : HivePartitioning} {table : GlueTableInfo} {directories : List (Text × List Text)}
  {files : List Text} {found partitions : List GluePartitionInput}

/-- The error apart, a registration depends on the file's directory only. -/
theorem registration_congr {file other : Text} {partition otherPartition : GluePartitionInput}
    (here : registration hive table directories file = .ok partition)
    (there : registration hive table directories other = .ok otherPartition)
    (same : directoryOf file = directoryOf other) : partition = otherPartition := by
  unfold registration at here there
  dsimp only at here there
  rw [← same] at there
  split at here
  · rename_i values known
    rw [known] at there
    cases here
    cases there
    rfl
  · rename_i unknown
    rw [unknown] at there
    dsimp only at there
    split_ifs at here there with few
    obtain ⟨values, read, ok⟩ := bind_eq_ok.mp here
    obtain ⟨otherValues, otherRead, otherOk⟩ := bind_eq_ok.mp there
    have reread : (Except.ok otherValues : Except Exception (List Text)) = .ok values := by
      rw [← otherRead, mapM_eq_ok]
      rw [mapM_eq_ok] at read
      apply read.imp
      rintro ⟨key, component⟩ value named
      dsimp only [componentValue] at named ⊢
      split_ifs at named ⊢ with plain
      exact named
    cases reread
    cases ok
    cases otherOk
    rfl

/-- Every file is registered where each of them can be, each directory once. -/
theorem registrations_ok (each : ∀ file ∈ files, ∃ partition, registration hive table directories file = .ok partition)
    (distinct : (found.map (·.location)).Nodup) : ∃ partitions,
      registrations hive table directories files found = .ok partitions ∧ (partitions.map (·.location)).Nodup := by
  induction files generalizing found with
  | nil => exact ⟨found, rfl, distinct⟩
  | cons file files ih =>
      have rest : ∀ other ∈ files, ∃ partition, registration hive table directories other = .ok partition :=
        fun other member => each other (List.mem_cons_of_mem _ member)
      rw [registrations]
      split_ifs with known
      · exact ih rest distinct
      · obtain ⟨partition, registered⟩ := each file List.mem_cons_self
        have fresh : directoryOf file ∉ found.map (·.location) := by
          intro member
          obtain ⟨earlier, inside, same⟩ := List.mem_map.mp member
          exact known (List.any_eq_true.mpr ⟨earlier, inside, decide_eq_true same⟩)
        have more : ((found ++ [partition]).map (·.location)).Nodup := by
          rw [List.map_append, List.map_singleton, registration_location registered, List.nodup_append]
          refine ⟨distinct, List.nodup_singleton _, ?_⟩
          intro location member other single same
          rw [List.mem_singleton.mp single] at same
          exact fresh (same ▸ member)
        obtain ⟨partitions, ok, nodup⟩ := ih rest more
        refine ⟨partitions, ?_, nodup⟩
        rw [registered]
        exact ok

end Registrations

section Written

variable {Value : Type} {hive : HivePartitioning} {casts : KeyCasts Value} {table : GlueTableInfo}
  {columns : List PartitionColumn} {isRelative : Text → Bool} {existing : Option (List GluePartitionInfo)}
  {path : PartitionPath Value} {rows : List (List (Option Value) × Text)} {files : List Text} {byPosition : Bool}
  {planned : List (PlannedPartition Value)}

/-- The files the copy wrote for rows, in the directories the partition path gives them;
a table the statement creates has no partitions. -/
structure Written (hive : HivePartitioning) (casts : KeyCasts Value) (table : GlueTableInfo)
    (columns : List PartitionColumn) (isRelative : Text → Bool) (existing : Option (List GluePartitionInfo))
    (path : PartitionPath Value) (rows : List (List (Option Value) × Text)) (files : List Text) : Prop where
  keyed : table.partitionKeys ≠ []
  bound : ∃ rowColumns, partitionColumns table rowColumns = .ok columns
  valuesDistinct : ((existing.getD []).map (·.values)).Nodup
  planned : createPartitionPath hive casts table (copyTarget table) columns existing = .ok path
  /-- The copy rejects a partition path that is not below its target. -/
  foreign : ∀ partition ∈ existing.getD [], (relativePartitionPath (copyTarget table) partition.location).1 = [] →
    isRelative partition.location = false
  faithful : ∀ row ∈ rows, FaithfulRow casts columns row.1
  named : ∀ row ∈ rows, '/' ∉ row.2
  written : rows.mapM (fun row => writtenFile (copyTarget table) isRelative path row.1 row.2) = .ok files

/-- What a directory written to is registered as. -/
inductive Origin (hive : HivePartitioning) (casts : KeyCasts Value) (table : GlueTableInfo)
    (columns : List PartitionColumn) (byPosition : Bool) (planned : List (PlannedPartition Value))
    (input : GluePartitionInput) : Prop where
  | custom (cast : PlannedPartition Value) (directory : Text) : cast ∈ planned →
      cast.customDirectory hive casts table (copyTarget table) columns byPosition = some directory →
      input.values = cast.partition.values → input.location = copyTarget table ++ ['/'] ++ directory →
      Origin hive casts table columns byPosition planned input
  | hive (row : List (Option Value)) :
      Unchecked hive casts table (copyTarget table) columns byPosition planned row → FaithfulRow casts columns row →
      input.values = row.map (canonicalValue casts) →
      input.location = copyTarget table ++ ['/'] ++ hivePath hive casts columns row →
      Origin hive casts table columns byPosition planned input

/-- The path is that of the existing partitions, each cast. -/
theorem createPartitionPath_ok
    (created : createPartitionPath hive casts table (copyTarget table) columns existing = .ok path) :
    ∃ byPosition planned, path = partitionPath hive casts table (copyTarget table) columns byPosition planned ∧
      ∀ cast ∈ planned, ∃ partition ∈ existing.getD [], plannedPartition casts table columns partition = .ok cast := by
  unfold createPartitionPath at created
  split at created
  · cases created
    exact ⟨false, [], rfl, fun cast none => by cases none⟩
  · simp only [bind_eq_ok, pure_eq_ok] at created
    obtain ⟨format, _, planned, all, rfl⟩ := created
    exact ⟨_, planned, rfl, fun cast member => mem_of_mapM all member⟩

/-- A file's directory is registered as that of the partition it is for. -/
theorem origin_of_written {row : List (Option Value)} {name file : Text}
    (keys : List.Forall₂ (fun (key : GlueColumn) (column : PartitionColumn) => ciEquals column.1 key.name = true)
      table.partitionKeys columns)
    (foreign : ∀ cast ∈ planned, (relativePartitionPath (copyTarget table) cast.partition.location).1 = [] →
      isRelative cast.partition.location = false)
    (faithful : FaithfulRow casts columns row) (named : '/' ∉ name)
    (written : writtenFile (copyTarget table) isRelative
      (partitionPath hive casts table (copyTarget table) columns byPosition planned) row name = .ok file) :
    ∃ input, registration hive table (partitionPath hive casts table (copyTarget table) columns byPosition
        planned).partitionDirectories file = .ok input ∧ Origin hive casts table columns byPosition planned input := by
  obtain ⟨cast, castMember, directory, -, -, custom, -, -, rfl⟩ | ⟨unchecked, rfl⟩ :=
    written_cases faithful foreign written
  · obtain ⟨values, known⟩ := exists_lookup castMember custom
    have tracked := known
    rw [← @directoryOf_file (copyTarget table ++ ['/'] ++ directory) _ named] at tracked
    obtain ⟨owner, ownerMember, same, ownerCustom⟩ := lookup_partitionDirectories known
    exact ⟨_, registration_known tracked, .custom owner directory ownerMember ownerCustom same.symm (directoryOf_file named)⟩
  · have untracked : (partitionPath hive casts table (copyTarget table) columns byPosition planned).partitionDirectories.lookup
        (copyTarget table ++ ['/'] ++ hivePath hive casts columns row) = none := by
      by_contra some
      obtain ⟨values, known⟩ := Option.ne_none_iff_exists'.mp some
      obtain ⟨owner, ownerMember, -, custom⟩ := lookup_partitionDirectories known
      exact unchecked.elsewhere owner ownerMember custom
    exact ⟨_, registration_hive named keys faithful.length_eq.symm untracked, .hive row unchecked faithful rfl rfl⟩

/-- A partition at a directory of its own is not one of the values of a row that no check
applies to. -/
theorem custom_of_unchecked {cast : PlannedPartition Value} {row : List (Option Value)} {directory : Text}
    (keys : List.Forall₂ (fun (key : GlueColumn) (column : PartitionColumn) => ciEquals column.1 key.name = true)
      table.partitionKeys columns) (member : cast ∈ planned)
    (castOf : ∃ partition, plannedPartition casts table columns partition = .ok cast)
    (custom : cast.customDirectory hive casts table (copyTarget table) columns byPosition = some directory)
    (unchecked : Unchecked hive casts table (copyTarget table) columns byPosition planned row)
    (faithful : FaithfulRow casts columns row) : cast.partition.values ≠ row.map (canonicalValue casts) := by
  intro same
  obtain ⟨partition, planned⟩ := castOf
  obtain ⟨rfl, -, values⟩ := plannedPartition_eq_ok.mp planned
  obtain ⟨back, reads, equal⟩ := keyValues_canonical keys faithful unchecked.spelled
  rw [same, reads] at values
  cases values
  have canonical := unchecked.canonical cast member (decide_eq_true equal)
  rw [(customDirectory_eq_some.mp custom).1] at canonical
  cases canonical

/-- Two directories written to are not registered for the same values. -/
theorem Origin.location_eq {input other : GluePartitionInput}
    (keys : List.Forall₂ (fun (key : GlueColumn) (column : PartitionColumn) => ciEquals column.1 key.name = true)
      table.partitionKeys columns) (valuesDistinct : ((existing.getD []).map (·.values)).Nodup)
    (origin : ∀ cast ∈ planned, ∃ partition ∈ existing.getD [], plannedPartition casts table columns partition = .ok cast)
    (here : Origin hive casts table columns byPosition planned input)
    (there : Origin hive casts table columns byPosition planned other) (same : input.values = other.values) :
    input.location = other.location := by
  have castOf : ∀ cast ∈ planned, ∃ partition, plannedPartition casts table columns partition = .ok cast :=
    fun cast member => (origin cast member).imp fun _ both => both.2
  cases here with
  | custom cast directory member custom values location =>
      cases there with
      | custom otherCast otherDirectory otherMember otherCustom otherValues otherLocation =>
          obtain ⟨partition, inside, castFrom⟩ := origin cast member
          obtain ⟨otherPartition, otherInside, otherFrom⟩ := origin otherCast otherMember
          have own := (plannedPartition_eq_ok.mp castFrom).1
          have otherOwn := (plannedPartition_eq_ok.mp otherFrom).1
          rw [values, otherValues, own, otherOwn] at same
          have one : partition = otherPartition := List.inj_on_of_nodup_map valuesDistinct inside otherInside same
          rw [one, otherFrom] at castFrom
          cases castFrom
          rw [otherCustom] at custom
          cases custom
          rw [location, otherLocation]
      | hive row unchecked faithful texts _ =>
          rw [values, texts] at same
          exact absurd same (custom_of_unchecked keys member (castOf cast member) custom unchecked faithful)
  | hive row unchecked faithful texts location =>
      cases there with
      | custom otherCast otherDirectory otherMember otherCustom otherValues _ =>
          rw [otherValues, texts] at same
          exact absurd same.symm
            (custom_of_unchecked keys otherMember (castOf otherCast otherMember) otherCustom unchecked faithful)
      | hive otherRow otherUnchecked otherFaithful otherTexts otherLocation =>
          rw [texts, otherTexts] at same
          rw [location, otherLocation, unchecked.spelled.hivePath, otherUnchecked.spelled.hivePath, same]

/-- The directories written to, each with the partition it is registered as. -/
theorem Written.registrations (written : Written hive casts table columns isRelative existing path rows files) :
    ∃ partitions, GlueHiveInsert.registrations hive table path.partitionDirectories files [] = .ok partitions ∧
      (partitions.map (·.values)).Nodup ∧
      ∀ file ∈ files, ∃ partition ∈ partitions,
        registration hive table path.partitionDirectories file = .ok partition := by
  obtain ⟨rowColumns, bound⟩ := written.bound
  have keys := columns_keys bound
  obtain ⟨byPosition, planned, pathOf, origin⟩ := createPartitionPath_ok written.planned
  have foreign : ∀ cast ∈ planned, (relativePartitionPath (copyTarget table) cast.partition.location).1 = [] →
      isRelative cast.partition.location = false := by
    intro cast castMember
    obtain ⟨partition, here, known⟩ := origin cast castMember
    rw [(plannedPartition_eq_ok.mp known).1]
    exact written.foreign partition here
  have each : ∀ file ∈ files, ∃ input, registration hive table path.partitionDirectories file = .ok input ∧
      Origin hive casts table columns byPosition planned input := by
    intro file member
    obtain ⟨⟨row, name⟩, rowMember, writtenHere⟩ := mem_of_mapM written.written member
    rw [pathOf] at writtenHere ⊢
    exact origin_of_written keys foreign (written.faithful _ rowMember) (written.named _ rowMember) writtenHere
  have none : (([] : List GluePartitionInput).map (·.location)).Nodup := .nil
  obtain ⟨partitions, registered, locations⟩ :=
    registrations_ok (fun file member => (each file member).imp fun _ both => both.1) none
  obtain ⟨-, from_, all⟩ := registrations_spec registered
  have origins : ∀ partition ∈ partitions, Origin hive casts table columns byPosition planned partition := by
    intro partition member
    obtain earlier | ⟨file, fileMember, here⟩ := from_ partition member
    · cases earlier
    · obtain ⟨input, there, own⟩ := each file fileMember
      rw [here] at there
      cases there
      exact own
  refine ⟨partitions, registered, ?_, ?_⟩
  · apply List.Nodup.map_on _ (List.Nodup.of_map _ locations)
    intro partition member other otherMember same
    apply List.inj_on_of_nodup_map locations member otherMember
    exact (origins partition member).location_eq keys written.valuesDistinct origin (origins other otherMember) same
  · intro file member
    obtain ⟨partition, inside, located⟩ := all file member
    obtain earlier | ⟨other, otherMember, here⟩ := from_ partition inside
    · cases earlier
    · obtain ⟨input, there, -⟩ := each file member
      have directory := registration_location here
      rw [located] at directory
      have one := registration_congr here there directory.symm
      rw [one] at inside
      exact ⟨input, inside, there⟩

end Written

section Finalized

variable {Value : Type} {hive : HivePartitioning} {casts : KeyCasts Value} {table : GlueTableInfo}
  {columns : List PartitionColumn} {isRelative : Text → Bool} {existing : Option (List GluePartitionInfo)}
  {path : PartitionPath Value} {rows : List (List (Option Value) × Text)} {files : List Text}
  {answers : FinalizeAnswers} {fuel : ℕ} {iterate : List GluePartitionInput → List GluePartitionInput}

/-- The files were removed, or the error says that they could not be. -/
def Undone (table : GlueTableInfo) (answers : FinalizeAnswers) (files : List Text) (run : FinalizeRun) : Prop :=
  run.removed = some files ∧ ∃ error,
    (answers.removeFiles files = .ok () ∧ run.result = .error (rolledBack table error)) ∨
      ∃ removing, answers.removeFiles files = .error removing ∧
        run.result = .error (notRolledBack table error removing files.length)

theorem daysWritten : Written percentHive textCasts daysTable dayColumns isRelativePath (some [renamedPartition]) daysPath
    [(fifthDay, "a.parquet".toList), (sixthDay, "b.parquet".toList)] daysFiles where
  keyed := daysInserted.keyed
  bound := daysInserted.bound
  valuesDistinct := daysInserted.valuesDistinct
  planned := daysInserted.planned
  foreign := daysInserted.foreign
  faithful := daysInserted.faithful
  named row member := (daysInserted.named row member).2
  written := by decide +kernel

end Finalized

end GlueHiveInsert

end DuckGlue
