import DuckGlue.Planning.OwningPartition

/-! # What a listing adds

Which file a listing adds to which partition does not depend on what was listed
before. So a listing is a sequence of steps, each decided by its file alone: it
throws when one of them does, and what it adds is what its steps add.
-/

namespace DuckGlue

open StringUtil Fallible

section ListedAt

variable {env : HiveListing} {index owner : env.Index} {reading : List env.Index} {file : OpenFileInfo}

/-- A data file listed at a partition's location lies below it. -/
theorem listed_holds (listed : file ∈ env.fs.listDataFiles (env.partition index).location) :
    env.locationOf index ≠ [] ∧ Holds (env.locationOf index) (comparableLocation file.path) := by
  obtain ⟨directory, object, -, rest, -, data, -, rfl⟩ := mem_listDataFiles.mp listed
  refine ⟨?_, ?_⟩
  · intro empty
    exact directory (normalizeScheme_eq_nil.mp empty)
  · rw [comparableLocation_listed data]
    exact Segments.Below.append _

namespace HiveListing

/-- A file listed at a partition: skipped for a nested one, or added, unless its
location is shared. -/
theorem partitionStep_listed (reading : List env.Index)
    (listed : file ∈ env.fs.listDataFiles (env.partition index).location) :
    ∃ owner, env.owningPartition file.path 0 = some owner ∧
      env.partitionStep reading index file =
        (env.throwIfLocationShared owner reading).map fun _ => if owner = index then some (file, index) else none := by
  obtain ⟨nonempty, holds⟩ := listed_holds listed
  obtain ⟨owner, owned⟩ := exists_owner nonempty holds
  refine ⟨owner, owningPartition_zero owned, ?_⟩
  simp only [partitionStep, owned]
  by_cases own : owner = index
  · subst own
    cases env.throwIfLocationShared owner reading <;> simp [Except.map, bind, Except.bind, pure, Except.pure]
  · cases env.throwIfLocationShared owner reading <;> simp [own, Except.map, bind, Except.bind, pure, Except.pure]

theorem rootStep_owned (data : isDataFile file (rtrim env.scan.rootLocation '/' ++ ['/']) = true)
    (owned : env.owningPartition file.path ((comparableLocation (rtrim env.scan.rootLocation '/')).length + 1) =
      some owner) : env.rootStep reading file =
        (env.throwIfLocationShared owner reading).map fun _ => if owner ∈ reading then some (file, owner) else none := by
  simp only [rootStep, data, owned, Bool.not_true, Bool.false_eq_true, if_false]
  cases env.throwIfLocationShared owner reading <;> simp [Except.map, bind, Except.bind, pure, Except.pure]

/-- A file the root's listing adds is a data file below the root, in the partition
that owns it. -/
theorem rootStep_eq_some {found : OpenFileInfo × env.Index} (added : env.rootStep reading file = .ok (some found)) :
    isDataFile file (rtrim env.scan.rootLocation '/' ++ ['/']) = true ∧
      env.owningPartition file.path ((comparableLocation (rtrim env.scan.rootLocation '/')).length + 1) =
        some found.2 ∧ found.2 ∈ reading ∧ found.1 = file := by
  by_cases data : isDataFile file (rtrim env.scan.rootLocation '/' ++ ['/']) = true
  · cases owned : env.owningPartition file.path ((comparableLocation (rtrim env.scan.rootLocation '/')).length + 1) with
    | none => simp [rootStep, data, owned] at added
    | some owner =>
        rw [rootStep_owned data owned] at added
        cases thrown : env.throwIfLocationShared owner reading with
        | error exception => simp [thrown, Except.map] at added
        | ok _ =>
            simp only [thrown, Except.map, Except.ok.injEq] at added
            split_ifs at added with read
            obtain rfl := Option.some.inj added
            exact ⟨data, rfl, read, rfl⟩
  · simp [rootStep, data] at added

/-- The files a job adds and those it is refused for. -/
def jobSteps (env : HiveListing) (job : ListingJob env) : List env.FileStep :=
  if job.root then env.rootSteps job.partitions else env.partitionSteps job.partitions

theorem mem_partitionSteps {indexes : List env.Index} {step : env.FileStep} :
    step ∈ env.partitionSteps indexes ↔ ∃ index ∈ indexes, ∃ file ∈ env.fs.listDataFiles (env.partition index).location,
      env.partitionStep indexes index file = step := by
  simp [partitionSteps]

theorem mem_rootSteps {indexes : List env.Index} {step : env.FileStep} :
    step ∈ env.rootSteps indexes ↔
      ∃ file ∈ env.fs.list (rtrim env.scan.rootLocation '/'), env.rootStep indexes file = step := by
  simp [rootSteps]

/-- A file listed at the location of a partition read that owns it is what a listing
of partitions adds. -/
theorem partitionSteps_added {indexes : List env.Index} :
    .ok (some (file, index)) ∈ env.partitionSteps indexes ↔ index ∈ indexes ∧
      file ∈ env.fs.listDataFiles (env.partition index).location ∧
        env.owningPartition file.path 0 = some index ∧ env.throwIfLocationShared index indexes = .ok () := by
  rw [mem_partitionSteps]
  refine ⟨?_, ?_⟩
  · intro added
    obtain ⟨listedAt, read, found, listed, step⟩ := added
    obtain ⟨owner, owned, decided⟩ := partitionStep_listed indexes listed
    rw [decided] at step
    cases thrown : env.throwIfLocationShared owner indexes with
    | error exception => simp [thrown, Except.map] at step
    | ok _ =>
        simp only [thrown, Except.map, Except.ok.injEq] at step
        split_ifs at step with own
        simp only [Option.some.injEq, Prod.mk.injEq] at step
        obtain ⟨rfl, rfl⟩ := step
        subst own
        exact ⟨read, listed, owned, thrown⟩
  · intro h
    obtain ⟨read, listed, owned, passed⟩ := h
    obtain ⟨owner, owned', decided⟩ := partitionStep_listed indexes listed
    obtain rfl : owner = index := Option.some.inj (owned'.symm.trans owned)
    exact ⟨owner, read, file, listed, by simp [decided, passed, Except.map]⟩

/-- Whatever a job adds belongs to the partition that owns the file. -/
theorem jobSteps_owned {job : ListingJob env} (added : .ok (some (file, index)) ∈ env.jobSteps job) :
    env.owningPartition file.path 0 = some index := by
  unfold jobSteps at added
  split_ifs at added with root
  · obtain ⟨found, -, step⟩ := mem_rootSteps.mp added
    obtain ⟨-, owned, -, rfl⟩ := rootStep_eq_some step
    exact owningPartition_zero owned
  · exact (partitionSteps_added.mp added).2.2.1

end HiveListing

end ListedAt

namespace HiveMultiFileList

variable {env : HiveListing} {steps : List env.FileStep} {shared : FilePartitions env}
  {list : HiveMultiFileList env}

theorem addFiles_cons (file : OpenFileInfo) (index : env.Index) :
    addFiles (.ok (some (file, index)) :: steps) shared list =
      addFiles steps (addFile file index shared list).1 (addFile file index shared list).2 := rfl

/-- What holds before the loop and is kept by every file it adds holds after it,
also when it throws. -/
theorem addFiles_induction {P : FilePartitions env → HiveMultiFileList env → Prop}
    (step : ∀ file index shared list, .ok (some (file, index)) ∈ steps → P shared list →
      P (addFile file index shared list).1 (addFile file index shared list).2)
    (start : P shared list) : P (addFiles steps shared list).2.1 (addFiles steps shared list).2.2 := by
  induction steps generalizing shared list with
  | nil => exact start
  | cons first steps ih =>
      have later := fun file index shared list member =>
        step file index shared list (List.mem_cons_of_mem first member)
      match first with
      | .error exception => exact start
      | .ok none => exact ih later start
      | .ok (some (file, index)) => exact ih later (step file index shared list List.mem_cons_self start)

theorem addFiles_eq_none : (addFiles steps shared list).1 = none ↔ ∀ step ∈ steps, ∃ found, step = .ok found := by
  induction steps generalizing shared list with
  | nil => simp [addFiles]
  | cons first steps ih =>
      match first with
      | .error exception => simp [addFiles]
      | .ok none => simp [addFiles, ih]
      | .ok (some (file, index)) => simp [addFiles, ih]

theorem addFiles_thrown {exception : Exception} (thrown : (addFiles steps shared list).1 = some exception) :
    .error exception ∈ steps := by
  induction steps generalizing shared list with
  | nil => simp [addFiles] at thrown
  | cons first steps ih =>
      match first with
      | .error other =>
          obtain rfl : other = exception := by simpa [addFiles] using thrown
          exact List.mem_cons_self
      | .ok none => exact List.mem_cons_of_mem _ (ih thrown)
      | .ok (some (file, index)) => exact List.mem_cons_of_mem _ (ih thrown)

/-- A loop that runs through leaves the paths it had and those its steps add. -/
theorem addFiles_listed (complete : (addFiles steps shared list).1 = none) {path : Text} :
    path ∈ (addFiles steps shared list).2.2.listedFiles ↔
      path ∈ list.listedFiles ∨ ∃ file index, .ok (some (file, index)) ∈ steps ∧ file.path = path := by
  induction steps generalizing shared list with
  | nil => simp [addFiles]
  | cons first steps ih =>
      match first with
      | .error exception => simp [addFiles] at complete
      | .ok none =>
          rw [addFiles, ih complete]
          simp
      | .ok (some (file, index)) =>
          have added : path ∈ (addFile file index shared list).2.listedFiles ↔
              path ∈ list.listedFiles ∨ file.path = path := by
            unfold addFile
            split_ifs with known
            · refine ⟨.inl, fun either => ?_⟩
              obtain member | rfl := either
              · exact member
              · exact known
            · simp [or_comm, eq_comm]
          rw [addFiles_cons] at complete ⊢
          rw [ih complete, added]
          simp only [List.mem_cons, Except.ok.injEq, Option.some.injEq, Prod.mk.injEq]
          grind

/-- The expanded files have different paths, and those are the listed ones. -/
structure WellFormed (list : HiveMultiFileList env) : Prop where
  distinct : (list.expandedFiles.map (·.path)).Nodup
  listed : ∀ path, path ∈ list.listedFiles ↔ path ∈ list.expandedFiles.map (·.path)

theorem WellFormed.addFile {file : OpenFileInfo} {index : env.Index} (wellFormed : list.WellFormed) :
    (addFile file index shared list).2.WellFormed := by
  unfold HiveMultiFileList.addFile
  split_ifs with known
  · exact wellFormed
  · have fresh : file.path ∉ list.expandedFiles.map (·.path) := fun member =>
      known ((wellFormed.listed _).mpr member)
    refine ⟨?_, ?_⟩
    · simp only [List.map_append, List.map_cons, List.map_nil]
      rw [← List.concat_eq_append, List.nodup_concat]
      exact ⟨fresh, wellFormed.distinct⟩
    · intro path
      simp [wellFormed.listed, or_comm]

/-- The partitions files are attributed to, and every file of the list is. -/
structure Attributes (shared : FilePartitions env) (list : HiveMultiFileList env) : Prop where
  owned : ∀ path index, shared.lookup path = some index → env.owningPartition path 0 = some index
  known : ∀ path ∈ list.listedFiles, ∃ index, shared.lookup path = some index

theorem lookup_insert_owned {file : OpenFileInfo} {index : env.Index}
    (owned : ∀ path index, shared.lookup path = some index → env.owningPartition path 0 = some index)
    (here : env.owningPartition file.path 0 = some index) (path : Text) (at_ : env.Index)
    (found : (shared.insert file.path index).lookup path = some at_) : env.owningPartition path 0 = some at_ := by
  by_cases same : path = file.path
  · subst same
    rw [AList.lookup_insert] at found
    exact here.trans found
  · rw [AList.lookup_insert_ne same] at found
    exact owned path at_ found

theorem lookup_insert_known {file : OpenFileInfo} {index : env.Index} {path : Text}
    (known : ∃ index, shared.lookup path = some index) :
    ∃ other, (shared.insert file.path index).lookup path = some other := by
  by_cases same : path = file.path
  · exact ⟨index, by rw [same, AList.lookup_insert]⟩
  · rwa [AList.lookup_insert_ne same]

theorem Attributes.addFile {file : OpenFileInfo} {index : env.Index} (attributes : Attributes shared list)
    (here : env.owningPartition file.path 0 = some index) :
    Attributes (addFile file index shared list).1 (addFile file index shared list).2 := by
  unfold HiveMultiFileList.addFile
  split_ifs with known
  · exact attributes
  · refine ⟨lookup_insert_owned attributes.owned here, ?_⟩
    intro path member
    obtain rfl | member := List.mem_cons.mp member
    · exact ⟨index, AList.lookup_insert _⟩
    · exact lookup_insert_known (attributes.known path member)

end HiveMultiFileList

end DuckGlue
