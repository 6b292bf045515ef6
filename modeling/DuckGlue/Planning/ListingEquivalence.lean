import DuckGlue.Planning.Attribution

/-! # Listing the root and listing each partition

The partitions below the root are listed either together or one by one. The two
ways read the same files when every partition that holds files is reached from the
root through visible directories, and refuse the same shared locations.
-/

namespace DuckGlue

open StringUtil Fallible HiveListing

section Inner

variable {fs : FileSystem} {outer inner rel path : Text} {file : OpenFileInfo}

/-- The two spellings of one location list the same files. -/
theorem listed_same (same : comparableLocation inner = comparableLocation outer)
    (listed : file ∈ fs.listDataFiles outer) :
    ∃ other ∈ fs.listDataFiles inner, comparableLocation other.path = comparableLocation file.path := by
  obtain ⟨directory, object, held, rest, key, data, rows, rfl⟩ := mem_listDataFiles.mp listed
  refine ⟨⟨rtrim inner '/' ++ '/' :: rest, object.size⟩, mem_listDataFiles.mpr ⟨?_, object, held, rest, ?_⟩, ?_⟩
  · intro empty
    have none : comparableLocation outer = [] := by rw [← same, comparableLocation, empty, normalizeScheme_eq_nil.mpr rfl]
    exact directory (normalizeScheme_eq_nil.mp none)
  · exact ⟨same ▸ key, data, rows, rfl⟩
  · rw [comparableLocation_listed data, comparableLocation_listed data, same]

/-- A listing of a directory finds the data files of a location below it when the
way there is visible, and none of them otherwise. -/
theorem listed_inner (within : comparableLocation inner = comparableLocation outer ++ '/' :: rel) (rel_ne : rel ≠ [])
    (outer_ne : comparableLocation outer ≠ []) :
    (∃ file ∈ fs.listDataFiles outer, comparableLocation file.path = path ∧ Holds (comparableLocation inner) path) ↔
      isVisible rel = true ∧ ∃ file ∈ fs.listDataFiles inner, comparableLocation file.path = path := by
  have rel_last : rel.getLast? ≠ some '/' := by
    have last := comparableLocation_last inner
    rwa [within, List.getLast?_append_of_ne_nil _ (by simp), List.getLast?_cons,
      List.getLast?_eq_some_getLast rel_ne, Option.getD_some, ← List.getLast?_eq_some_getLast rel_ne] at last
  have outer_dir : rtrim outer '/' ≠ [] := fun empty =>
    outer_ne (by rw [comparableLocation, empty, normalizeScheme_eq_nil.mpr rfl])
  have inner_dir : rtrim inner '/' ≠ [] := fun empty => by
    rw [comparableLocation, empty, normalizeScheme_eq_nil.mpr rfl] at within
    exact absurd within.symm (by simp)
  -- the two names of one object below the two directories
  have named : ∀ rest, isDataName rest = true →
      comparableLocation outer ++ '/' :: rtrim (rel ++ '/' :: rest) '/' =
        comparableLocation inner ++ '/' :: rtrim rest '/' := by
    intro rest data
    obtain ⟨c, cs, rfl, opens⟩ := isDataName_head data
    have tail : rtrim ('/' :: c :: cs) '/' = '/' :: rtrim (c :: cs) '/' :=
      Segments.trimEnd_append (p := ['/']) ⟨c, by simp, opens⟩
    have trimmed : rtrim (rel ++ '/' :: c :: cs) '/' = rel ++ rtrim ('/' :: c :: cs) '/' :=
      Segments.trimEnd_append ⟨c, by simp, opens⟩
    rw [trimmed, tail, within]
    simp
  refine ⟨?_, ?_⟩
  · intro found
    obtain ⟨file, listed, rfl, holds⟩ := found
    obtain ⟨-, object, held, below, key, data, rows, rfl⟩ := mem_listDataFiles.mp listed
    rw [comparableLocation_listed data, within] at holds
    obtain ⟨rest, shape⟩ := Segments.below_iff.mp holds
    have trimmed : rtrim below '/' = rel ++ '/' :: rest := by simpa using shape
    have front : rtrim below '/' <+: below := Segments.trimEnd_prefix below
    obtain ⟨more, whole⟩ := front
    have name : below = rel ++ '/' :: (rest ++ more) := by
      rw [← whole, trimmed]
      simp
    have rest_ne : rest ++ more ≠ [] := by
      intro empty
      obtain ⟨rfl, rfl⟩ := List.append_eq_nil_iff.mp empty
      have last : (rtrim below '/').getLast? ≠ some '/' := Segments.trimEnd_last below
      rw [trimmed] at last
      simp at last
    rw [name, isDataName_append rel_ne rel_last rest_ne, Bool.and_eq_true] at data
    refine ⟨data.1, ⟨rtrim inner '/' ++ '/' :: (rest ++ more), object.size⟩, ?_, ?_⟩
    · exact mem_listDataFiles.mpr ⟨inner_dir, object, held, _, by rw [key, name, within]; simp, data.2, rows, rfl⟩
    · have whole : isDataName below = true := by
        rw [name, isDataName_append rel_ne rel_last rest_ne, data.1, data.2]
        rfl
      rw [comparableLocation_listed data.2, comparableLocation_listed whole, name, named _ data.2]
  · intro found
    obtain ⟨visible, file, listed, rfl⟩ := found
    obtain ⟨-, object, held, rest, key, data, rows, rfl⟩ := mem_listDataFiles.mp listed
    obtain ⟨c, cs, rfl, opens⟩ := isDataName_head data
    have whole : isDataName (rel ++ '/' :: c :: cs) = true := by
      rw [isDataName_append rel_ne rel_last (by simp), visible, data]
      rfl
    refine ⟨⟨rtrim outer '/' ++ '/' :: (rel ++ '/' :: c :: cs), object.size⟩, ?_, ?_, ?_⟩
    · exact mem_listDataFiles.mpr ⟨outer_dir, object, held, _, by rw [key, within]; simp, whole, rows, rfl⟩
    · rw [comparableLocation_listed data, comparableLocation_listed whole, named _ data]
    · rw [comparableLocation_listed data]
      exact Segments.Below.append _

/-- What is listed at a location is listed at every deeper location that holds it. -/
theorem listed_between (listed : file ∈ fs.listDataFiles outer)
    (outerHolds : Holds (comparableLocation outer) (comparableLocation file.path))
    (innerHolds : Holds (comparableLocation inner) (comparableLocation file.path))
    (outer_ne : comparableLocation outer ≠ [])
    (le : (comparableLocation outer).length ≤ (comparableLocation inner).length) :
    ∃ other ∈ fs.listDataFiles inner, comparableLocation other.path = comparableLocation file.path := by
  obtain equal | inside := outerHolds.chain innerHolds le
  · exact listed_same equal.symm listed
  · obtain ⟨rel, within⟩ := Segments.below_iff.mp inside
    have rel_ne : rel ≠ [] := by
      intro empty
      have last := comparableLocation_last inner
      rw [within, empty] at last
      simp at last
    exact ((listed_inner within rel_ne outer_ne).mp ⟨file, listed, rfl, innerHolds⟩).2

end Inner

namespace HiveListing

variable {env : HiveListing} {index : env.Index} {reading : List env.Index} {path : Text}

/-- What follows the root in a location below it. -/
def relativeLocation (env : HiveListing) (index : env.Index) : Text :=
  (env.locationOf index).drop ((comparableLocation env.scan.rootLocation).length + 1)

/-- No directory from the root down to the location is hidden or has an empty name. -/
def Covered (env : HiveListing) (index : env.Index) : Prop := isVisible (env.relativeLocation index) = true

/-- Some data file is read as the partition's, deepest registered location and all. -/
def HoldsFiles (env : HiveListing) (index : env.Index) : Prop := ∃ path, env.ReadAs index path

theorem isBelowRoot_location
    (below : HiveMultiFileList.isBelowRoot (comparableLocation env.scan.rootLocation) (env.locationOf index) = true) :
    comparableLocation env.scan.rootLocation ≠ [] ∧ env.relativeLocation index ≠ [] ∧
      env.locationOf index = comparableLocation env.scan.rootLocation ++ '/' :: env.relativeLocation index := by
  simp only [HiveMultiFileList.isBelowRoot, Bool.and_eq_true, decide_eq_true_eq, startsWith_iff] at below
  obtain ⟨⟨⟨nonempty, long⟩, rest, shape⟩, -⟩ := below
  have tail : env.relativeLocation index = rest := by simp [relativeLocation, ← shape]
  refine ⟨nonempty, ?_, ?_⟩
  · intro empty
    rw [← tail, empty] at shape
    rw [← shape] at long
    simp at long
  · rw [tail, ← shape]
    simp

section Root

variable (below : HiveMultiFileList.isBelowRoot (comparableLocation env.scan.rootLocation) (env.locationOf index) = true)
include below

/-- The root's listing finds the files of a partition below it that are not hidden. -/
theorem root_listed : (∃ file ∈ env.fs.listDataFiles env.scan.rootLocation, comparableLocation file.path = path ∧
    env.IsDeepest path (env.locationOf index)) ↔
      env.Covered index ∧ ∃ listed, env.ReadAs index listed ∧ comparableLocation listed = path := by
  obtain ⟨root_ne, rel_ne, within⟩ := isBelowRoot_location below
  have inner := @listed_inner env.fs _ _ _ path within rel_ne root_ne
  refine ⟨?_, ?_⟩
  · intro found
    obtain ⟨file, listed, same, deepest⟩ := found
    obtain ⟨visible, other, member, path'⟩ := inner.mp ⟨file, listed, same, deepest.holds⟩
    exact ⟨visible, other.path, ⟨path' ▸ deepest, other, member, rfl⟩, path'⟩
  · intro h
    obtain ⟨visible, listed, ⟨deepest, other, member, rfl⟩, rfl⟩ := h
    obtain ⟨file, found, same, holds⟩ := inner.mpr ⟨visible, other, member, rfl⟩
    exact ⟨file, found, same, deepest⟩

end Root

/-- Every step of the root's listing passes unless a shared location read holds
files the root's listing finds. -/
theorem rootSteps_passed
    (below : ∀ index ∈ reading,
      HiveMultiFileList.isBelowRoot (comparableLocation env.scan.rootLocation) (env.locationOf index) = true) :
    (∀ step ∈ env.rootSteps reading, ∃ found, step = .ok found) ↔
      ¬ ∃ index ∈ reading, env.IsShared index ∧ env.Covered index ∧ env.HoldsFiles index := by
  refine ⟨?_, ?_⟩
  · intro passed found
    obtain ⟨index, read, shared, covered, path, readAs⟩ := found
    obtain ⟨root_ne, -, within⟩ := isBelowRoot_location (below index read)
    obtain ⟨file, listed, same, deepest⟩ := (root_listed (below index read)).mpr ⟨covered, path, readAs, rfl⟩
    obtain ⟨-, inList, data⟩ := mem_listDataFiles_list.mp listed
    obtain ⟨owner, here, first⟩ := exists_firstAt index deepest.nonempty
    have owned : env.owningPartition file.path ((comparableLocation (rtrim env.scan.rootLocation '/')).length + 1) =
        some owner := by
      refine owningPartition_eq_some.mpr ⟨?_, first, ?_⟩
      · rw [here, same]
        exact deepest
      · rw [here, within, comparableLocation_rtrim]
        simp only [List.length_append, List.length_cons]
        omega
    obtain ⟨found, ok⟩ := passed _ (mem_rootSteps.mpr ⟨file, inList, rfl⟩)
    rw [rootStep_owned data owned] at ok
    have allowed : env.throwIfLocationShared owner reading = .ok () := by
      cases thrown : env.throwIfLocationShared owner reading with
      | ok _ => rfl
      | error exception => simp [thrown, Except.map] at ok
    exact (throwIfLocationShared_eq_ok (here ▸ deepest.nonempty) first).mp allowed
      ⟨shared.congr here, index, read, here.symm⟩
  · intro unshared step member
    obtain ⟨file, inList, rfl⟩ := mem_rootSteps.mp member
    by_cases data : isDataFile file (rtrim env.scan.rootLocation '/' ++ ['/']) = true
    · cases owned : env.owningPartition file.path
          ((comparableLocation (rtrim env.scan.rootLocation '/')).length + 1) with
      | none => exact ⟨none, by simp [rootStep, data, owned]⟩
      | some owner =>
          obtain ⟨deepest, first, -⟩ := owningPartition_eq_some.mp owned
          have allowed : env.throwIfLocationShared owner reading = .ok () := by
            refine (throwIfLocationShared_eq_ok deepest.nonempty first).mpr ?_
            intro refused
            obtain ⟨shared, index, read, same⟩ := refused
            obtain ⟨root_ne, -, -⟩ := isBelowRoot_location (below index read)
            have root_dir : rtrim env.scan.rootLocation '/' ≠ [] := fun empty =>
              root_ne (by rw [comparableLocation, empty, normalizeScheme_eq_nil.mpr rfl])
            obtain ⟨covered, path, readAs, -⟩ := (root_listed (below index read)).mp
              ⟨file, mem_listDataFiles_list.mpr ⟨root_dir, inList, data⟩, rfl, same ▸ deepest⟩
            exact unshared ⟨index, read, shared.congr same, covered, path, readAs⟩
          rw [rootStep_owned data owned, allowed]
          exact ⟨_, rfl⟩
    · exact ⟨none, by simp [rootStep, data]⟩

/-- A file listed at one partition whose deepest location is the one of another: that
partition's own listing finds it as well. -/
theorem exists_readAs {file : OpenFileInfo} {other : env.Index}
    (listed : file ∈ env.fs.listDataFiles (env.partition index).location)
    (deepest : env.IsDeepest (comparableLocation file.path) (env.locationOf other)) :
    ∃ path, env.ReadAs other path ∧ comparableLocation path = comparableLocation file.path := by
  obtain ⟨nonempty, holds⟩ := listed_holds listed
  obtain ⟨found, member, path⟩ := listed_between listed holds deepest.holds nonempty
    (deepest.deepest index nonempty holds)
  exact ⟨found.path, ⟨path ▸ deepest, found, member, rfl⟩, path⟩

/-- Every step of a batch passes unless a shared location of the batch holds files. -/
theorem partitionSteps_passed : (∀ step ∈ env.partitionSteps reading, ∃ found, step = .ok found) ↔
    ¬ ∃ index ∈ reading, env.IsShared index ∧ env.HoldsFiles index := by
  refine ⟨?_, ?_⟩
  · intro passed found
    obtain ⟨index, read, shared, path, readAs⟩ := found
    obtain ⟨-, file, added, -⟩ := owner_of_passed read passed readAs
    obtain ⟨-, -, owned, allowed⟩ := partitionSteps_added.mp added
    obtain ⟨deepest, first, -⟩ := owningPartition_eq_some.mp owned
    exact (throwIfLocationShared_eq_ok deepest.nonempty first).mp allowed ⟨shared, index, read, rfl⟩
  · intro unshared step member
    obtain ⟨index, read, file, listed, rfl⟩ := mem_partitionSteps.mp member
    obtain ⟨owner, owned, decided⟩ := partitionStep_listed reading listed
    obtain ⟨deepest, first, -⟩ := owningPartition_eq_some.mp owned
    have allowed : env.throwIfLocationShared owner reading = .ok () := by
      refine (throwIfLocationShared_eq_ok deepest.nonempty first).mpr ?_
      intro refused
      obtain ⟨shared, other, readOther, same⟩ := refused
      obtain ⟨path, readAs, -⟩ := @exists_readAs _ _ _ other listed (same ▸ deepest)
      exact unshared ⟨other, readOther, shared.congr same, path, readAs⟩
    rw [decided, allowed]
    exact ⟨_, rfl⟩

/-- The refusal of a shared location. -/
def IsSharedRefusal (env : HiveListing) (exception : Exception) : Prop :=
  ∃ owner sharing, exception = env.sharedLocation owner sharing

theorem throwIfLocationShared_refusal {owner : env.Index} {exception : Exception}
    (thrown : env.throwIfLocationShared owner reading = .error exception) : env.IsSharedRefusal exception := by
  unfold throwIfLocationShared at thrown
  split at thrown
  · nomatch thrown
  · split_ifs at thrown
    exact ⟨owner, _, (Except.error.inj thrown).symm⟩

theorem rootSteps_refusal {exception : Exception} (member : .error exception ∈ env.rootSteps reading) :
    env.IsSharedRefusal exception := by
  obtain ⟨file, -, step⟩ := mem_rootSteps.mp member
  by_cases data : isDataFile file (rtrim env.scan.rootLocation '/' ++ ['/']) = true
  · cases owned : env.owningPartition file.path ((comparableLocation (rtrim env.scan.rootLocation '/')).length + 1) with
    | none => simp [rootStep, data, owned] at step
    | some owner =>
        rw [rootStep_owned data owned] at step
        cases thrown : env.throwIfLocationShared owner reading with
        | ok _ => simp [thrown, Except.map] at step
        | error other =>
            obtain rfl : other = exception := by simpa [thrown, Except.map] using step
            exact throwIfLocationShared_refusal thrown
  · simp [rootStep, data] at step

theorem partitionSteps_refusal {exception : Exception} (member : .error exception ∈ env.partitionSteps reading) :
    env.IsSharedRefusal exception := by
  obtain ⟨index, -, file, listed, step⟩ := mem_partitionSteps.mp member
  obtain ⟨owner, -, decided⟩ := partitionStep_listed reading listed
  rw [decided] at step
  cases thrown : env.throwIfLocationShared owner reading with
  | ok _ => simp [thrown, Except.map] at step
  | error other =>
      obtain rfl : other = exception := by simpa [thrown, Except.map] using step
      exact throwIfLocationShared_refusal thrown

/-- Every partition of a batch has one value for each key. -/
def allCounted (env : HiveListing) (indexes : List env.Index) : Bool :=
  indexes.all fun index => (env.partition index).values.length = env.scan.partitionKeys.length

theorem checkValueCount_forM : reading.forM env.checkValueCount = .ok () ↔ env.allCounted reading = true := by
  rw [forM_eq_ok]
  simp [allCounted, checkValueCount]

theorem checkValueCount_not_shared {exception : Exception}
    (thrown : reading.forM env.checkValueCount = .error exception) : ¬ env.IsSharedRefusal exception := by
  obtain ⟨index, -, refused⟩ := forM_eq_error thrown
  simp only [checkValueCount] at refused
  split_ifs at refused
  intro shared
  obtain ⟨owner, sharing, same⟩ := shared
  have type := congrArg Exception.type ((Except.error.inj refused).trans same)
  simp [Exception.invalidInput, sharedLocation, Exception.notImplemented] at type

end HiveListing

namespace HiveMultiFileList

variable {env : HiveListing} {shared : FilePartitions env} {list : HiveMultiFileList env}
  {reading : List env.Index} {batches : List (List env.Index)}

/-- `ListPartitions` for one batch after the other, until one throws. -/
def listBatches : List (List env.Index) → FilePartitions env → HiveMultiFileList env →
    Option Exception × FilePartitions env × HiveMultiFileList env
  | [], shared, list => (none, shared, list)
  | batch :: batches, shared, list =>
      match listPartitions batch shared list with
      | (some exception, shared, list) => (some exception, shared, list)
      | (none, shared, list) => listBatches batches shared list

/-- The pairs of a file and its partition a listing has added, the paths compared. -/
def attributed (outcome : Option Exception × FilePartitions env × HiveMultiFileList env) : Set (Text × env.Index) :=
  {found | ∃ file ∈ outcome.2.2.expandedFiles, comparableLocation file.path = found.1 ∧
    outcome.2.1.lookup file.path = some found.2}

def SharedThrown (outcome : Option Exception × FilePartitions env × HiveMultiFileList env) : Prop :=
  ∃ exception, outcome.1 = some exception ∧ env.IsSharedRefusal exception

/-- Two ways to list the same partitions come to the same: they refuse the same
shared locations and, when neither throws, add the same files. -/
structure Agree (one other : Option Exception × FilePartitions env × HiveMultiFileList env) : Prop where
  shared : SharedThrown one ↔ SharedThrown other
  added : one.1 = none → other.1 = none → attributed one = attributed other

/-- A list whose files all have their owners. -/
structure Consistent (shared : FilePartitions env) (list : HiveMultiFileList env) : Prop where
  wellFormed : list.WellFormed
  attributes : Attributes shared list

theorem attributed_iff {outcome : Option Exception × FilePartitions env × HiveMultiFileList env}
    (consistent : Consistent outcome.2.1 outcome.2.2) {path : Text} {index : env.Index} :
    (path, index) ∈ attributed outcome ↔ ∃ listed ∈ outcome.2.2.listedFiles,
      comparableLocation listed = path ∧ env.owningPartition listed 0 = some index := by
  refine ⟨?_, ?_⟩
  · intro found
    obtain ⟨file, member, rfl, known⟩ := found
    have listed := (consistent.wellFormed.listed file.path).mpr (List.mem_map_of_mem member)
    exact ⟨file.path, listed, rfl, consistent.attributes.owned _ _ known⟩
  · intro found
    obtain ⟨listed, member, rfl, owned⟩ := found
    obtain ⟨file, inFiles, rfl⟩ := List.mem_map.mp ((consistent.wellFormed.listed listed).mp member)
    obtain ⟨known, here⟩ := consistent.attributes.known _ member
    obtain rfl := Option.some.inj ((consistent.attributes.owned _ _ here).symm.trans owned)
    exact ⟨file, inFiles, rfl, here⟩

theorem consistent_fresh : Consistent (∅ : FilePartitions env) {} :=
  ⟨⟨List.nodup_nil, by simp⟩, ⟨by simp, by simp⟩⟩

theorem addFiles_consistent {job : ListingJob env} (consistent : Consistent shared list) :
    Consistent (addFiles (env.jobSteps job) shared list).2.1 (addFiles (env.jobSteps job) shared list).2.2 :=
  ⟨addFiles_wellFormed _ consistent.wellFormed,
    addFiles_attributes (fun _ _ added => jobSteps_owned added) consistent.attributes⟩

section Partitions

/-- A batch adds its files, is refused a shared location or a wrong value count. -/
theorem listPartitions_eq (shared : FilePartitions env) (list : HiveMultiFileList env) (reading : List env.Index) :
    (env.allCounted reading = false ∧ ∃ exception, ¬ env.IsSharedRefusal exception ∧
        listPartitions reading shared list = (some exception, shared, list)) ∨
      (env.allCounted reading = true ∧
        listPartitions reading shared list = addFiles (env.jobSteps ⟨false, reading⟩) shared list) := by
  unfold listPartitions
  cases counted : reading.forM env.checkValueCount with
  | error exception =>
      refine .inl ⟨?_, exception, checkValueCount_not_shared counted, rfl⟩
      by_contra all
      rw [Bool.not_eq_false] at all
      rw [checkValueCount_forM.mpr all] at counted
      nomatch counted
  | ok _ => exact .inr ⟨checkValueCount_forM.mp counted, rfl⟩

/-- A batch runs through when its partitions have their values and none of its
shared locations holds files. -/
theorem listPartitions_eq_none (shared : FilePartitions env) (list : HiveMultiFileList env)
    (reading : List env.Index) : (listPartitions reading shared list).1 = none ↔
    env.allCounted reading = true ∧ ¬ ∃ index ∈ reading, env.IsShared index ∧ env.HoldsFiles index := by
  obtain ⟨uncounted, exception, -, run⟩ | ⟨counted, run⟩ := listPartitions_eq shared list reading
  · simp [run, uncounted]
  · rw [run, addFiles_eq_none, counted]
    have passed : (∀ step ∈ env.jobSteps ⟨false, reading⟩, ∃ found, step = .ok found) ↔ _ := partitionSteps_passed
    rw [passed]
    simp

theorem listPartitions_shared (shared : FilePartitions env) (list : HiveMultiFileList env)
    (reading : List env.Index) : SharedThrown (listPartitions reading shared list) ↔
    env.allCounted reading = true ∧ ∃ index ∈ reading, env.IsShared index ∧ env.HoldsFiles index := by
  have through := listPartitions_eq_none shared list reading
  obtain ⟨uncounted, exception, other, run⟩ | ⟨counted, run⟩ := listPartitions_eq shared list reading
  · refine iff_of_false ?_ (by simp [uncounted])
    intro thrown
    obtain ⟨_, same, refusal⟩ := thrown
    rw [run] at same
    exact other (Option.some.inj same ▸ refusal)
  · refine ⟨?_, ?_⟩
    · intro thrown
      obtain ⟨exception, some, -⟩ := thrown
      refine ⟨counted, ?_⟩
      by_contra none
      rw [through.mpr ⟨counted, none⟩] at some
      nomatch some
    · intro h
      cases outcome : (listPartitions reading shared list).1 with
      | none => exact absurd h.2 (through.mp outcome).2
      | some exception =>
          rw [run] at outcome
          exact ⟨exception, by rw [run, outcome], partitionSteps_refusal (addFiles_thrown outcome)⟩

theorem listPartitions_consistent (consistent : Consistent shared list) (reading : List env.Index) :
    Consistent (listPartitions reading shared list).2.1 (listPartitions reading shared list).2.2 := by
  obtain ⟨-, exception, -, run⟩ | ⟨-, run⟩ := listPartitions_eq shared list reading
  · rw [run]
    exact consistent
  · rw [run]
    exact addFiles_consistent consistent

/-- What the batches before the first one with a wrong value count read. -/
def readBatches (env : HiveListing) (batches : List (List env.Index)) : List env.Index :=
  (batches.takeWhile env.allCounted).flatten

theorem listBatches_shared (batches : List (List env.Index)) (shared : FilePartitions env)
    (list : HiveMultiFileList env) : SharedThrown (listBatches batches shared list) ↔
    ∃ index ∈ readBatches env batches, env.IsShared index ∧ env.HoldsFiles index := by
  induction batches generalizing shared list with
  | nil => simp [listBatches, SharedThrown, readBatches]
  | cons batch batches ih =>
      have here := listPartitions_shared shared list batch
      have through := listPartitions_eq_none shared list batch
      cases outcome : listPartitions batch shared list with
      | mk thrown rest =>
          rw [outcome] at here through
          cases thrown with
          | some exception =>
              have same : SharedThrown (listBatches (batch :: batches) shared list) ↔
                  SharedThrown (some exception, rest) := by simp only [listBatches, outcome, SharedThrown]
              rw [same, here]
              cases counted : env.allCounted batch with
              | false => simp [readBatches, counted]
              | true =>
                  have refused : ∃ index ∈ batch, env.IsShared index ∧ env.HoldsFiles index := by
                    by_contra none
                    exact absurd (through.mpr ⟨counted, none⟩) nofun
                  obtain ⟨index, read, shares⟩ := refused
                  refine iff_of_true ⟨rfl, index, read, shares⟩ ⟨index, ?_, shares⟩
                  rw [readBatches, List.takeWhile_cons_of_pos counted, List.flatten_cons]
                  exact List.mem_append_left _ read
          | none =>
              obtain ⟨counted, unshared⟩ := through.mp rfl
              have next : listBatches (batch :: batches) shared list = listBatches batches rest.1 rest.2 := by
                simp only [listBatches, outcome]
              have split : readBatches env (batch :: batches) = batch ++ readBatches env batches := by
                rw [readBatches, List.takeWhile_cons_of_pos counted, List.flatten_cons, readBatches]
              rw [next, ih, split]
              refine ⟨?_, ?_⟩
              · intro found
                obtain ⟨index, read, shares⟩ := found
                exact ⟨index, List.mem_append_right _ read, shares⟩
              · intro found
                obtain ⟨index, read, shares⟩ := found
                obtain inBatch | later := List.mem_append.mp read
                · exact absurd ⟨index, inBatch, shares⟩ unshared
                · exact ⟨index, later, shares⟩

theorem listPartitions_listed (complete : (listPartitions reading shared list).1 = none) (path : Text) :
    path ∈ (listPartitions reading shared list).2.2.listedFiles ↔
      path ∈ list.listedFiles ∨ ∃ index ∈ reading, env.ReadAs index path := by
  obtain ⟨-, exception, -, run⟩ | ⟨-, run⟩ := listPartitions_eq shared list reading
  · rw [run] at complete
    nomatch complete
  · rw [run] at complete ⊢
    have passed : ∀ step ∈ env.partitionSteps reading, ∃ found, step = .ok found := addFiles_eq_none.mp complete
    rw [addFiles_listed complete]
    refine or_congr_right ⟨?_, ?_⟩
    · intro added
      obtain ⟨file, index, step, rfl⟩ := added
      obtain ⟨read, listed, owned, -⟩ := partitionSteps_added.mp step
      exact ⟨index, read, (owningPartition_eq_some.mp owned).1, file, listed, rfl⟩
    · intro found
      obtain ⟨index, read, readAs⟩ := found
      obtain ⟨-, file, added, same⟩ := owner_of_passed read passed readAs
      exact ⟨file, index, added, same⟩

theorem listBatches_listed (consistent : Consistent shared list)
    (complete : (listBatches batches shared list).1 = none) :
    Consistent (listBatches batches shared list).2.1 (listBatches batches shared list).2.2 ∧
      ∀ path, path ∈ (listBatches batches shared list).2.2.listedFiles ↔
        path ∈ list.listedFiles ∨ ∃ index ∈ batches.flatten, env.ReadAs index path := by
  induction batches generalizing shared list with
  | nil => exact ⟨consistent, by simp [listBatches]⟩
  | cons batch batches ih =>
      have kept := listPartitions_consistent consistent batch
      cases outcome : listPartitions batch shared list with
      | mk thrown rest =>
          cases thrown with
          | some exception => simp [listBatches, outcome] at complete
          | none =>
              have first : (listPartitions batch shared list).1 = none := by rw [outcome]
              have listed := listPartitions_listed first
              have next : listBatches (batch :: batches) shared list = listBatches batches rest.1 rest.2 := by
                simp only [listBatches, outcome]
              rw [next] at complete ⊢
              rw [outcome] at kept listed
              obtain ⟨later, paths⟩ := ih kept complete
              refine ⟨later, fun path => ?_⟩
              rw [paths path, listed, List.flatten_cons]
              simp only [List.mem_append]
              grind

end Partitions

section Root

/-- The root has a location and its partitions read have their values. -/
def rootReadable (env : HiveListing) (reading : List env.Index) : Prop :=
  rtrim env.scan.rootLocation '/' ≠ [] ∧ env.allCounted reading = true

theorem listRoot_eq (shared : FilePartitions env) (list : HiveMultiFileList env) (reading : List env.Index) :
    (¬ rootReadable env reading ∧ ∃ exception, ¬ env.IsSharedRefusal exception ∧
        listRoot reading shared list = (some exception, shared, list)) ∨
      (rootReadable env reading ∧
        listRoot reading shared list = addFiles (env.jobSteps ⟨true, reading⟩) shared list) := by
  unfold listRoot rootReadable
  by_cases empty : rtrim env.scan.rootLocation '/' = []
  · rw [if_pos empty]
    refine .inl ⟨fun readable => readable.1 empty, _, ?_, rfl⟩
    intro shared
    obtain ⟨owner, sharing, same⟩ := shared
    have type := congrArg Exception.type same
    simp [Exception.invalidInput, sharedLocation, Exception.notImplemented] at type
  · rw [if_neg empty]
    cases counted : reading.forM env.checkValueCount with
    | error exception =>
        refine .inl ⟨?_, exception, checkValueCount_not_shared counted, rfl⟩
        intro readable
        rw [checkValueCount_forM.mpr readable.2] at counted
        nomatch counted
    | ok _ => exact .inr ⟨⟨empty, checkValueCount_forM.mp counted⟩, rfl⟩

variable (below : ∀ index ∈ reading,
  isBelowRoot (comparableLocation env.scan.rootLocation) (env.locationOf index) = true)
include below

theorem listRoot_eq_none (shared : FilePartitions env) (list : HiveMultiFileList env) : (listRoot reading shared list).1 = none ↔ rootReadable env reading ∧
    ¬ ∃ index ∈ reading, env.IsShared index ∧ env.Covered index ∧ env.HoldsFiles index := by
  obtain ⟨unreadable, exception, -, run⟩ | ⟨readable, run⟩ := listRoot_eq shared list reading
  · simp [run, unreadable]
  · have passed : (∀ step ∈ env.jobSteps ⟨true, reading⟩, ∃ found, step = .ok found) ↔ _ := rootSteps_passed below
    rw [run, addFiles_eq_none, passed]
    simp [readable]

theorem listRoot_shared (shared : FilePartitions env) (list : HiveMultiFileList env) : SharedThrown (listRoot reading shared list) ↔ rootReadable env reading ∧
    ∃ index ∈ reading, env.IsShared index ∧ env.Covered index ∧ env.HoldsFiles index := by
  have through := listRoot_eq_none below shared list
  obtain ⟨unreadable, exception, other, run⟩ | ⟨readable, run⟩ := listRoot_eq shared list reading
  · refine iff_of_false ?_ (fun h => unreadable h.1)
    intro thrown
    obtain ⟨_, same, refusal⟩ := thrown
    rw [run] at same
    exact other (Option.some.inj same ▸ refusal)
  · refine ⟨?_, ?_⟩
    · intro thrown
      obtain ⟨exception, some, -⟩ := thrown
      refine ⟨readable, ?_⟩
      by_contra none
      rw [through.mpr ⟨readable, none⟩] at some
      nomatch some
    · intro h
      cases outcome : (listRoot reading shared list).1 with
      | none => exact absurd h.2 (through.mp outcome).2
      | some exception =>
          rw [run] at outcome
          exact ⟨exception, by rw [run, outcome], rootSteps_refusal (addFiles_thrown outcome)⟩

/-- A root's listing that runs through adds the files of the partitions read it
reaches, each to the owner. -/
theorem listRoot_attributed (complete : (listRoot reading ∅ {}).1 = none) {path : Text} {index : env.Index} :
    (path, index) ∈ attributed (listRoot reading ∅ ({} : HiveMultiFileList env)) ↔
      index ∈ reading ∧ env.IsFirst index ∧ env.Covered index ∧
        ∃ listed, env.ReadAs index listed ∧ comparableLocation listed = path := by
  obtain ⟨-, exception, -, run⟩ | ⟨readable, run⟩ := listRoot_eq ∅ ({} : HiveMultiFileList env) reading
  · rw [run] at complete
    nomatch complete
  · rw [run] at complete ⊢
    rw [attributed_iff (addFiles_consistent consistent_fresh)]
    have passed : ∀ step ∈ env.rootSteps reading, ∃ found, step = .ok found := addFiles_eq_none.mp complete
    simp only [addFiles_listed complete, List.not_mem_nil, false_or]
    refine ⟨?_, ?_⟩
    · intro added
      obtain ⟨_, ⟨file, owner, step, rfl⟩, rfl, owned⟩ := added
      obtain ⟨found, inList, decided⟩ := mem_rootSteps.mp step
      obtain ⟨data, below', read, rfl⟩ := rootStep_eq_some decided
      obtain rfl : owner = index := Option.some.inj ((owningPartition_zero below').symm.trans owned)
      obtain ⟨deepest, first, -⟩ := owningPartition_eq_some.mp owned
      obtain ⟨covered, readAs⟩ := (root_listed (below owner read)).mp
        ⟨file, mem_listDataFiles_list.mpr ⟨readable.1, inList, data⟩, rfl, deepest⟩
      exact ⟨read, first, covered, readAs⟩
    · intro found
      obtain ⟨read, first, covered, readAs⟩ := found
      obtain ⟨file, listed, rfl, deepest⟩ := (root_listed (below index read)).mpr ⟨covered, readAs⟩
      obtain ⟨-, inList, data⟩ := mem_listDataFiles_list.mp listed
      have owned : env.owningPartition file.path ((comparableLocation (rtrim env.scan.rootLocation '/')).length + 1) =
          some index := by
        refine owningPartition_eq_some.mpr ⟨deepest, first, ?_⟩
        rw [(isBelowRoot_location (below index read)).2.2, comparableLocation_rtrim]
        simp only [List.length_append, List.length_cons]
        omega
      have member : env.rootStep reading file ∈ env.rootSteps reading := mem_rootSteps.mpr ⟨file, inList, rfl⟩
      obtain ⟨outcome, ok⟩ := passed _ member
      rw [rootStep_owned data owned] at ok member
      cases thrown : env.throwIfLocationShared index reading with
      | error exception => simp [thrown, Except.map] at ok
      | ok _ =>
          have added : .ok (some (file, index)) ∈ env.rootSteps reading := by
            simpa [thrown, Except.map, read] using member
          exact ⟨file.path, ⟨file, index, added, rfl⟩, rfl, owningPartition_zero owned⟩

end Root

section Agreement

/-- When the two ways to list partitions below the root agree. With one value for
each key everywhere, every partition read that holds files is reached from the root
through visible directories, unless the root's listing meets a shared location, which
both refuse. A wrong value count stops the root's listing before it starts, so then
no batch before the first one with a wrong count may meet a shared location. -/
structure ReadAlike (env : HiveListing) (reading : List env.Index) (batches : List (List env.Index)) : Prop where
  counted : env.allCounted reading = true →
    (∃ index ∈ reading, env.IsShared index ∧ env.Covered index ∧ env.HoldsFiles index) ∨
      ∀ index ∈ reading, env.HoldsFiles index → env.Covered index
  uncounted : env.allCounted reading = false →
    ∀ index ∈ readBatches env batches, env.IsShared index → ¬ env.HoldsFiles index

theorem readBatches_of_counted (split : batches.flatten = reading) (counted : env.allCounted reading = true) :
    readBatches env batches = reading := by
  have all : ∀ batch ∈ batches, env.allCounted batch = true := by
    intro batch member
    simp only [allCounted, List.all_eq_true] at counted ⊢
    exact fun index inBatch => counted index (split ▸ List.mem_flatten.mpr ⟨batch, member, inBatch⟩)
  rw [readBatches, List.takeWhile_eq_self_iff.mpr all, split]

theorem isFirst_of_not_shared {index : env.Index} (alone : ¬ env.IsShared index) : env.IsFirst index :=
  fun other before same => alone ⟨other, Fin.ne_of_lt before, same⟩

/-- The batches of partitions with their values add what each of them holds. -/
theorem listBatches_attributed (complete : (listBatches batches ∅ {}).1 = none) {path : Text} {index : env.Index} :
    (path, index) ∈ attributed (listBatches batches ∅ ({} : HiveMultiFileList env)) ↔
      env.IsFirst index ∧ (∃ read ∈ batches.flatten, env.locationOf read = env.locationOf index ∧
        ∃ listed, env.ReadAs read listed ∧ comparableLocation listed = path) := by
  obtain ⟨consistent, listed⟩ := listBatches_listed consistent_fresh complete
  rw [attributed_iff consistent]
  simp only [listed, List.not_mem_nil, false_or]
  refine ⟨?_, ?_⟩
  · intro found
    obtain ⟨listed, ⟨read, inBatches, readAs⟩, rfl, owned⟩ := found
    obtain ⟨deepest, first, -⟩ := owningPartition_eq_some.mp owned
    exact ⟨first, read, inBatches, readAs.deepest.unique deepest, listed, readAs, rfl⟩
  · intro found
    obtain ⟨first, read, inBatches, same, listed, readAs, rfl⟩ := found
    exact ⟨listed, ⟨read, inBatches, readAs⟩, rfl,
      owningPartition_eq_some.mpr ⟨same ▸ readAs.deepest, first, Nat.zero_le _⟩⟩

/-- Batches with one value for each key run through when no shared location they
read holds files. -/
theorem listBatches_eq_none (counted : ∀ batch ∈ batches, env.allCounted batch = true)
    (unshared : ¬ ∃ index ∈ batches.flatten, env.IsShared index ∧ env.HoldsFiles index) :
    (listBatches batches shared list).1 = none := by
  induction batches generalizing shared list with
  | nil => rfl
  | cons batch batches ih =>
      obtain ⟨here, later⟩ := List.forall_mem_cons.mp counted
      have through : (listPartitions batch shared list).1 = none := by
        refine (listPartitions_eq_none shared list batch).mpr ⟨here, fun found => unshared ?_⟩
        obtain ⟨index, read, shares⟩ := found
        exact ⟨index, by rw [List.flatten_cons]; exact List.mem_append_left _ read, shares⟩
      cases outcome : listPartitions batch shared list with
      | mk thrown rest =>
          obtain rfl : thrown = none := by rw [outcome] at through; exact through
          simp only [listBatches, outcome]
          refine ih later fun found => unshared ?_
          obtain ⟨index, read, shares⟩ := found
          exact ⟨index, by rw [List.flatten_cons]; exact List.mem_append_right _ read, shares⟩

section Below

variable (below : ∀ index ∈ reading,
  isBelowRoot (comparableLocation env.scan.rootLocation) (env.locationOf index) = true)
include below

theorem rootReadable_of_mem {index : env.Index} (read : index ∈ reading) (counted : env.allCounted reading = true) :
    rootReadable env reading := by
  refine ⟨fun empty => (isBelowRoot_location (below index read)).1 ?_, counted⟩
  rw [comparableLocation, empty, normalizeScheme_eq_nil.mpr rfl]

theorem agree_of_counted (split : batches.flatten = reading) (counted : env.allCounted reading = true) :
    Agree (listRoot reading ∅ ({} : HiveMultiFileList env)) (listBatches batches ∅ {}) ↔
      ((∃ index ∈ reading, env.IsShared index ∧ env.Covered index ∧ env.HoldsFiles index) ∨
        ∀ index ∈ reading, env.HoldsFiles index → env.Covered index) := by
  have batchesShared := listBatches_shared batches ∅ ({} : HiveMultiFileList env)
  rw [readBatches_of_counted split counted] at batchesShared
  have rootShared := listRoot_shared below ∅ ({} : HiveMultiFileList env)
  refine ⟨?_, ?_⟩
  · intro agree
    by_cases refused : ∃ index ∈ reading, env.IsShared index ∧ env.Covered index ∧ env.HoldsFiles index
    · exact .inl refused
    · refine .inr fun index read holds => ?_
      have unshared : ¬ ∃ index ∈ reading, env.IsShared index ∧ env.HoldsFiles index := fun found =>
        refused (rootShared.mp (agree.shared.mpr (batchesShared.mpr found))).2
      have rootThrough := (listRoot_eq_none below ∅ ({} : HiveMultiFileList env)).mpr
        ⟨rootReadable_of_mem below read counted, refused⟩
      have eachCounted : ∀ batch ∈ batches, env.allCounted batch = true := by
        intro batch member
        simp only [allCounted, List.all_eq_true] at counted ⊢
        exact fun index inBatch => counted index (split ▸ List.mem_flatten.mpr ⟨batch, member, inBatch⟩)
      have batchesThrough : (listBatches batches ∅ ({} : HiveMultiFileList env)).1 = none :=
        listBatches_eq_none eachCounted (split ▸ unshared)
      have alone : ¬ env.IsShared index := fun shared => unshared ⟨index, read, shared, holds⟩
      obtain ⟨listed, readAs⟩ := holds
      have added := (listBatches_attributed batchesThrough).mpr
        ⟨isFirst_of_not_shared alone, index, split ▸ read, rfl, listed, readAs, rfl⟩
      rw [← agree.added rootThrough batchesThrough] at added
      exact ((listRoot_attributed below rootThrough).mp added).2.2.1
  · intro alike
    refine ⟨?_, fun rootThrough batchesThrough => ?_⟩
    · rw [rootShared, batchesShared]
      refine ⟨?_, ?_⟩
      · intro found
        obtain ⟨-, index, read, shared, -, holds⟩ := found
        exact ⟨index, read, shared, holds⟩
      · intro found
        obtain ⟨index, read, shared, holds⟩ := found
        refine ⟨rootReadable_of_mem below read counted, ?_⟩
        obtain refused | covered := alike
        · exact refused
        · exact ⟨index, read, shared, covered index read holds, holds⟩
    · obtain ⟨-, unrefused⟩ := (listRoot_eq_none below ∅ ({} : HiveMultiFileList env)).mp rootThrough
      have covered := alike.resolve_left unrefused
      ext found
      obtain ⟨path, index⟩ := found
      rw [listRoot_attributed below rootThrough, listBatches_attributed batchesThrough, split]
      refine ⟨?_, ?_⟩
      · intro h
        obtain ⟨read, first, -, readAs⟩ := h
        exact ⟨first, index, read, rfl, readAs⟩
      · intro h
        obtain ⟨first, read, inReading, same, listed, readAs, path'⟩ := h
        obtain rfl : read = index := by
          by_contra differs
          have thrown := batchesShared.mpr ⟨read, inReading, ⟨index, fun equal => differs equal.symm, same.symm⟩,
            listed, readAs⟩
          obtain ⟨exception, some, -⟩ := thrown
          rw [batchesThrough] at some
          nomatch some
        exact ⟨inReading, first, covered read inReading ⟨listed, readAs⟩, listed, readAs, path'⟩

end Below

/-- Listing the root once and listing the partitions below it in batches come to the
same exactly under `ReadAlike`. -/
theorem listRoot_listBatches_agree_iff
    (below : ∀ index ∈ reading,
      isBelowRoot (comparableLocation env.scan.rootLocation) (env.locationOf index) = true)
    (split : batches.flatten = reading) :
    Agree (listRoot reading ∅ ({} : HiveMultiFileList env)) (listBatches batches ∅ {}) ↔
      ReadAlike env reading batches := by
  cases counted : env.allCounted reading with
  | true =>
      rw [agree_of_counted below split counted]
      exact ⟨fun alike => ⟨fun _ => alike, fun wrong => by simp [counted] at wrong⟩, fun alike => alike.counted counted⟩
  | false =>
      have unreadable : ¬ rootReadable env reading := fun readable =>
        Bool.false_ne_true (counted.symm.trans readable.2)
      have unrefused : ¬ SharedThrown (listRoot reading ∅ ({} : HiveMultiFileList env)) := fun thrown =>
        unreadable ((listRoot_shared below ∅ ({} : HiveMultiFileList env)).mp thrown).1
      have stopped : (listRoot reading ∅ ({} : HiveMultiFileList env)).1 ≠ none := fun through =>
        unreadable ((listRoot_eq_none below ∅ ({} : HiveMultiFileList env)).mp through).1
      refine ⟨fun agree => ⟨fun right => by simp [counted] at right, fun _ index read shared holds => ?_⟩, ?_⟩
      · exact unrefused (agree.shared.mpr ((listBatches_shared batches ∅ {}).mpr ⟨index, read, shared, holds⟩))
      · intro alike
        refine ⟨iff_of_false unrefused fun thrown => ?_, fun through => absurd through stopped⟩
        obtain ⟨index, read, shared, holds⟩ := (listBatches_shared batches ∅ {}).mp thrown
        exact alike.uncounted counted index read shared holds

open HiveScanState in
theorem listRoot_listBatches_agree_nested :
    Agree (listRoot [outerPartition, innerPartition] ∅ ({} : HiveMultiFileList nestedPartitions))
        (listBatches [[outerPartition], [innerPartition]] ∅ {}) ↔
      ReadAlike nestedPartitions [outerPartition, innerPartition] [[outerPartition], [innerPartition]] :=
  listRoot_listBatches_agree_iff (by decide +kernel) rfl

/-- A partition below an empty directory name right under the root. -/
def emptySegment : HiveListing where
  scan := { tableName := "t", rootLocation := "s3://bucket/t", partitionKeys := ["p".toList] }
  partitions := [⟨["x".toList], "s3://bucket/t//p=x", [], [], ∅, []⟩]
  fs := .ofObjects [⟨"s3://bucket/t//p=x/a.parquet", some 10⟩]
  db := ⟨fun _ => none⟩
  threads := 1

def emptySegmentFile : OpenFileInfo := ⟨"s3://bucket/t//p=x/a.parquet", some 10⟩

/-- The root's listing leaves its file out, although the partition counts as one the
root covers; its own listing finds the file. -/
theorem listRoot_listBatches_disagree :
    ¬ ∀ (env : HiveListing) (reading : List env.Index) (batches : List (List env.Index)),
      (∀ index ∈ reading,
        isBelowRoot (comparableLocation env.scan.rootLocation) (env.locationOf index) = true) →
      batches.flatten = reading →
      Agree (listRoot reading ∅ ({} : HiveMultiFileList env)) (listBatches batches ∅ {}) := by
  intro always
  let only : emptySegment.Index := ⟨0, by decide⟩
  have agree := always emptySegment [only] [[only]] (by decide +kernel) rfl
  have rootThrough : (listRoot [only] ∅ ({} : HiveMultiFileList emptySegment)).1 = none := by decide +kernel
  have batchesThrough : (listBatches [[only]] ∅ ({} : HiveMultiFileList emptySegment)).1 = none := by decide +kernel
  have rootFiles : (listRoot [only] ∅ ({} : HiveMultiFileList emptySegment)).2.2.expandedFiles = [] := by
    decide +kernel
  have batchFiles : (listBatches [[only]] ∅ ({} : HiveMultiFileList emptySegment)).2.2.expandedFiles =
      [emptySegmentFile] := by decide +kernel
  have known : AList.lookup emptySegmentFile.path
      (listBatches [[only]] ∅ ({} : HiveMultiFileList emptySegment)).2.1 = some only := by decide +kernel
  have added : (comparableLocation emptySegmentFile.path, only) ∈
      attributed (listBatches [[only]] ∅ ({} : HiveMultiFileList emptySegment)) := by
    refine ⟨emptySegmentFile, ?_, rfl, known⟩
    rw [batchFiles]
    exact List.mem_cons_self
  rw [← agree.added rootThrough batchesThrough] at added
  obtain ⟨file, member, -⟩ := added
  rw [rootFiles] at member
  nomatch member

end Agreement

end HiveMultiFileList

end DuckGlue
