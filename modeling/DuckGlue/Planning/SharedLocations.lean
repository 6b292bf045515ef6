import DuckGlue.Planning.ListingEquivalence

/-! # Shared locations are refused

Two partitions registered at one location share its data files. A full expansion
fails when it lists such a file and reads one of the partitions, however it is split
into jobs, and never returns a file of such a location.
-/

namespace DuckGlue

open StringUtil Fallible HiveListing

namespace HiveListing

variable {env : HiveListing} {job : ListingJob env} {jobs : List (ListingJob env)} {indexes : List env.Index}
  {file : OpenFileInfo} {index : env.Index}

/-- What a job is refused for before it looks at a file. -/
def jobChecks (env : HiveListing) (job : ListingJob env) : Except Exception Unit := do
  job.partitions.forM fun index => env.scan.verifyConsistentPartitionSerDe env.db (env.partition index)
  if job.root = true ∧ rtrim env.scan.rootLocation '/' = [] then
    throw (.invalidInput ("Hive table '" ++ env.scan.describe ++ "' has no location"))
  job.partitions.forM env.checkValueCount

/-- The data files a job lists. -/
def jobFiles (env : HiveListing) (job : ListingJob env) : List OpenFileInfo :=
  if job.root then env.fs.listDataFiles env.scan.rootLocation
  else job.partitions.flatMap fun index => env.fs.listDataFiles (env.partition index).location

/-- The file is a data file of a location that two partitions share, one of them read. -/
def SharedRead (env : HiveListing) (reading : List env.Index) (file : OpenFileInfo) : Prop :=
  ∃ index ∈ reading, env.IsShared index ∧
    ∃ path, env.ReadAs index path ∧ comparableLocation path = comparableLocation file.path

/-- A partition whose location counts as below the table root. -/
abbrev IsBelowRoot (env : HiveListing) (index : env.Index) : Prop :=
  HiveMultiFileList.isBelowRoot (comparableLocation env.scan.rootLocation) (env.locationOf index) = true

/-- The partitions read are spread over the jobs. Where the root is listed, it is for
the partitions below it, and only these. -/
structure Split (env : HiveListing) (indexes : List env.Index) (jobs : List (ListingJob env)) : Prop where
  spread : (jobs.flatMap (·.partitions)).Perm indexes
  root : (∃ job ∈ jobs, job.root = true) →
    ∀ job ∈ jobs, ∀ index ∈ job.partitions, job.root = true ↔ env.IsBelowRoot index

/-- The listings planned are a split. -/
theorem plan_split (indexes : List env.Index) : env.Split indexes (HiveMultiFileList.plan env indexes) where
  spread := HiveMultiFileList.plan_partitions indexes
  root := by
    have together : 0 < HiveMultiFileList.partitionsListedTogether env := by
      simp [HiveMultiFileList.partitionsListedTogether]
    unfold HiveMultiFileList.plan
    dsimp only
    split_ifs
    · intro _ job member index inJob
      cases List.mem_cons.mp member with
      | inl first =>
          subst first
          simpa using (List.mem_filter.mp inJob).2
      | inr later =>
          obtain ⟨batch, inBatches, rfl⟩ := List.mem_map.mp later
          have inside := List.mem_flatten_of_mem inBatches inJob
          rw [HiveMultiFileList.batches_flatten together] at inside
          simpa using (List.mem_filter.mp inside).2
    · rintro ⟨job, member, isRoot⟩
      obtain ⟨batch, -, rfl⟩ := List.mem_map.mp member
      cases isRoot

theorem Split.mem_partitions (split : env.Split indexes jobs) (member : job ∈ jobs) (inJob : index ∈ job.partitions) :
    index ∈ indexes :=
  split.spread.mem_iff.mp (List.mem_flatMap.mpr ⟨job, member, inJob⟩)

theorem Split.below (split : env.Split indexes jobs) (member : job ∈ jobs) (isRoot : job.root = true) :
    ∀ index ∈ job.partitions, env.IsBelowRoot index :=
  fun index inJob => (split.root ⟨job, member, isRoot⟩ job member index inJob).mp isRoot

/-- A listed file whose owner is refused belongs to a shared location that is read. -/
theorem shared_of_refused {owner : env.Index} {reading : List env.Index} {exception : Exception}
    (owned : env.owningPartition file.path 0 = some owner)
    (thrown : env.throwIfLocationShared owner reading = .error exception) :
    ∃ index ∈ reading, env.IsShared index ∧ env.IsDeepest (comparableLocation file.path) (env.locationOf index) := by
  obtain ⟨deepest, first, -⟩ := owningPartition_eq_some.mp owned
  have refused : ¬ env.throwIfLocationShared owner reading = .ok () := by simp [thrown]
  rw [throwIfLocationShared_eq_ok deepest.nonempty first, not_not] at refused
  obtain ⟨shared, index, read, same⟩ := refused
  exact ⟨index, read, shared.congr same, same ▸ deepest⟩

theorem jobSteps_refusal {exception : Exception} (refused : .error exception ∈ env.jobSteps job) :
    env.IsSharedRefusal exception := by
  unfold jobSteps at refused
  split_ifs at refused
  · exact rootSteps_refusal refused
  · exact partitionSteps_refusal refused

/-- A job is refused for a data file it lists of a shared location it reads. -/
theorem jobSteps_refused {exception : Exception}
    (below : job.root = true → ∀ index ∈ job.partitions, env.IsBelowRoot index)
    (refused : .error exception ∈ env.jobSteps job) :
    ∃ file ∈ env.jobFiles job, env.SharedRead job.partitions file := by
  unfold jobSteps at refused
  unfold jobFiles
  split_ifs at refused ⊢ with isRoot
  · obtain ⟨file, inList, step⟩ := mem_rootSteps.mp refused
    cases data : isDataFile file (rtrim env.scan.rootLocation '/' ++ ['/']) with
    | false => simp [rootStep, data] at step
    | true =>
        cases owned : env.owningPartition file.path
            ((comparableLocation (rtrim env.scan.rootLocation '/')).length + 1) with
        | none => simp [rootStep, data, owned] at step
        | some owner =>
            rw [rootStep_owned data owned] at step
            cases thrown : env.throwIfLocationShared owner job.partitions with
            | ok _ => simp [thrown, Except.map] at step
            | error other =>
                obtain ⟨index, read, shared, deepest⟩ := shared_of_refused (owningPartition_zero owned) thrown
                have inside := below isRoot index read
                obtain ⟨root_ne, -, -⟩ := isBelowRoot_location inside
                have root_dir : rtrim env.scan.rootLocation '/' ≠ [] := fun empty =>
                  root_ne (by rw [comparableLocation, empty, normalizeScheme_eq_nil.mpr rfl])
                have listed := mem_listDataFiles_list.mpr ⟨root_dir, inList, data⟩
                obtain ⟨-, path, readAs, same⟩ := (root_listed inside).mp ⟨file, listed, rfl, deepest⟩
                exact ⟨file, listed, index, read, shared, path, readAs, same⟩
  · obtain ⟨listedAt, inJob, file, listed, step⟩ := mem_partitionSteps.mp refused
    obtain ⟨owner, owned, decided⟩ := partitionStep_listed job.partitions listed
    rw [decided] at step
    cases thrown : env.throwIfLocationShared owner job.partitions with
    | ok _ => simp [thrown, Except.map] at step
    | error other =>
        obtain ⟨index, read, shared, deepest⟩ := shared_of_refused owned thrown
        obtain ⟨path, readAs, same⟩ := exists_readAs listed deepest
        exact ⟨file, List.mem_flatMap.mpr ⟨listedAt, inJob, listed⟩, index, read, shared, path, readAs, same⟩

/-- A file a job adds lies at a location that is not shared. -/
theorem jobSteps_unshared (added : .ok (some (file, index)) ∈ env.jobSteps job) :
    env.IsDeepest (comparableLocation file.path) (env.locationOf index) ∧ ¬ env.IsShared index := by
  have owned := jobSteps_owned added
  obtain ⟨deepest, first, -⟩ := owningPartition_eq_some.mp owned
  have allowed : index ∈ job.partitions ∧ env.throwIfLocationShared index job.partitions = .ok () := by
    unfold jobSteps at added
    split_ifs at added
    · obtain ⟨found, -, step⟩ := mem_rootSteps.mp added
      obtain ⟨data, ownedBelow, read, same⟩ := rootStep_eq_some step
      cases same
      rw [rootStep_owned data ownedBelow] at step
      cases thrown : env.throwIfLocationShared index job.partitions with
      | ok _ => exact ⟨read, rfl⟩
      | error exception => simp [thrown, Except.map] at step
    · obtain ⟨read, -, -, passed⟩ := partitionSteps_added.mp added
      exact ⟨read, passed⟩
  refine ⟨deepest, fun shared => ?_⟩
  exact (throwIfLocationShared_eq_ok deepest.nonempty first).mp allowed.2 ⟨shared, index, allowed.1, rfl⟩

/-- A location between the root and one that counts as below it counts as well. -/
theorem isBelowRoot_of_between {inner : env.Index} (below : env.IsBelowRoot inner) {rel : Text} (rel_ne : rel ≠ [])
    (within : env.locationOf index = comparableLocation env.scan.rootLocation ++ '/' :: rel)
    (inside : Segments.Below '/' (env.locationOf index) (env.locationOf inner)) : env.IsBelowRoot index := by
  obtain ⟨rest, deeper⟩ := Segments.below_iff.mp inside
  obtain ⟨root_ne, -, -⟩ := isBelowRoot_location below
  have long : 0 < rel.length := List.length_pos_iff.mpr rel_ne
  have tail : (env.locationOf index).drop ((comparableLocation env.scan.rootLocation).length + 1) = rel := by
    simp [within]
  have tail' : (env.locationOf inner).drop ((comparableLocation env.scan.rootLocation).length + 1) =
      rel ++ '/' :: rest := by
    simp [deeper, within]
  unfold IsBelowRoot HiveMultiFileList.isBelowRoot at below ⊢
  simp only [Bool.and_eq_true, decide_eq_true_eq, Bool.not_eq_true', tail, tail'] at below ⊢
  refine ⟨⟨⟨root_ne, ?_⟩, ?_⟩, ?_⟩
  · rw [within, List.length_append, List.length_cons]
    omega
  · rw [within]
    exact startsWith_iff.mpr ⟨rel, by simp⟩
  · by_contra empty
    rw [Bool.not_eq_false, contains_iff] at empty
    have whole := contains_iff.mpr (empty.trans (List.prefix_append rel ('/' :: rest)).isInfix)
    rw [below.2] at whole
    cases whole

/-- The root's listing finds a file of a partition below it that a listing elsewhere
found. -/
theorem covered_of_listed {listedAt : env.Index} (elsewhere : ¬ env.IsBelowRoot listedAt) (below : env.IsBelowRoot index)
    (listed : file ∈ env.fs.listDataFiles (env.partition listedAt).location)
    (deepest : env.IsDeepest (comparableLocation file.path) (env.locationOf index)) : env.Covered index := by
  obtain ⟨nonempty, holds⟩ := listed_holds listed
  obtain ⟨root_ne, -, within⟩ := isBelowRoot_location below
  have rootBelow : Segments.Below '/' (comparableLocation env.scan.rootLocation) (env.locationOf index) :=
    Segments.below_iff.mpr ⟨_, within⟩
  have rootHolds : Holds (comparableLocation env.scan.rootLocation) (comparableLocation file.path) :=
    rootBelow.trans deepest.holds
  have higher : (env.locationOf listedAt).length ≤ (comparableLocation env.scan.rootLocation).length := by
    by_contra deeper
    apply elsewhere
    obtain same | inside := rootHolds.chain holds (by omega)
    · rw [same] at deeper
      omega
    · obtain ⟨rel, at_⟩ := Segments.below_iff.mp inside
      have rel_ne : rel ≠ [] := by
        intro empty
        have last := comparableLocation_last (env.partition listedAt).location
        rw [show comparableLocation (env.partition listedAt).location = env.locationOf listedAt from rfl, at_,
          empty] at last
        simp at last
      cases holds.chain deepest.holds (deepest.deepest listedAt nonempty holds) with
      | inl equal => rwa [IsBelowRoot, equal]
      | inr below' => exact isBelowRoot_of_between below rel_ne at_ below'
  obtain ⟨found, member, same⟩ := listed_between listed holds rootHolds nonempty higher
  exact ((root_listed below).mp ⟨found, member, same, deepest⟩).1

/-- Where every step of every job passes, no job lists a file of a shared location
that is read. -/
theorem Split.not_shared (split : env.Split indexes jobs)
    (passed : ∀ job ∈ jobs, ∀ step ∈ env.jobSteps job, ∃ found, step = .ok found) (member : job ∈ jobs)
    (listed : file ∈ env.jobFiles job) : ¬ env.SharedRead indexes file := by
  intro shared
  obtain ⟨index, read, shared, path, readAs, same⟩ := shared
  obtain ⟨own, ownMember, inOwn⟩ := List.mem_flatMap.mp (split.spread.mem_iff.mpr read)
  have ownPassed := passed own ownMember
  unfold jobSteps at ownPassed
  cases ownRoot : own.root with
  | false =>
      rw [ownRoot, if_neg (by simp)] at ownPassed
      exact partitionSteps_passed.mp ownPassed ⟨index, inOwn, shared, path, readAs⟩
  | true =>
      rw [ownRoot, if_pos rfl] at ownPassed
      have below := split.below ownMember ownRoot
      refine (rootSteps_passed below).mp ownPassed ⟨index, inOwn, shared, ?_, path, readAs⟩
      have deepest : env.IsDeepest (comparableLocation file.path) (env.locationOf index) := same ▸ readAs.deepest
      unfold jobFiles at listed
      split_ifs at listed with isRoot
      · exact ((root_listed (below index inOwn)).mp ⟨file, listed, rfl, deepest⟩).1
      · obtain ⟨listedAt, inJob, listed⟩ := List.mem_flatMap.mp listed
        have elsewhere := (split.root ⟨own, ownMember, ownRoot⟩ job member listedAt inJob).not.mp isRoot
        exact covered_of_listed elsewhere (below index inOwn) listed deepest

end HiveListing

namespace HiveMultiFileList

variable {env : HiveListing} {shared : FilePartitions env} {list : HiveMultiFileList env}

/-- The jobs an expansion has run, the one that threw included. -/
def jobsRun (outcome : Option Exception × FilePartitions env × HiveMultiFileList env) : List (ListingJob env) :=
  outcome.2.2.listingJobs.take outcome.2.2.nextJob

/-- An expansion was refused before it looked at the files of a job. -/
def CheckThrown (outcome : Option Exception × FilePartitions env × HiveMultiFileList env) : Prop :=
  ∃ exception, outcome.1 = some exception ∧ ∃ job ∈ jobsRun outcome, env.jobChecks job = .error exception

/-- What an expansion from a list comes to. -/
structure Outcome (list : HiveMultiFileList env)
    (outcome : Option Exception × FilePartitions env × HiveMultiFileList env) : Prop where
  jobs : outcome.2.2.listingJobs = list.listingJobs
  forward : list.nextJob ≤ outcome.2.2.nextJob
  thrown : ∀ exception, outcome.1 = some exception → ∃ job ∈ jobsRun outcome,
    env.jobChecks job = .error exception ∨ .error exception ∈ env.jobSteps job
  passed : outcome.1 = none → ∀ job ∈ list.listingJobs.drop list.nextJob,
    ∀ step ∈ env.jobSteps job, ∃ found, step = .ok found
  added : ∀ file ∈ outcome.2.2.expandedFiles, file ∈ list.expandedFiles ∨
    ∃ job ∈ list.listingJobs, ∃ index, .ok (some (file, index)) ∈ env.jobSteps job

/-- A file the loop of a job adds is one of its steps. -/
theorem addFiles_expanded {steps : List env.FileStep} {file : OpenFileInfo}
    (member : file ∈ (addFiles steps shared list).2.2.expandedFiles) :
    file ∈ list.expandedFiles ∨ ∃ index, .ok (some (file, index)) ∈ steps := by
  revert member
  refine addFiles_induction
    (P := fun _ other => file ∈ other.expandedFiles → file ∈ list.expandedFiles ∨ ∃ index, .ok (some (file, index)) ∈ steps)
    ?_ .inl
  intro added index shared other inSteps before member
  unfold addFile at member
  split_ifs at member
  · exact before member
  · cases List.mem_append.mp member with
    | inl earlier => exact before earlier
    | inr last =>
        obtain rfl := List.mem_singleton.mp last
        exact .inr ⟨index, inSteps⟩

section Expansion

variable (partitioned : env.scan.partitionKeys ≠ [])
include partitioned

/-- A job runs its checks, then its steps. -/
theorem runJob_eq (job : ListingJob env) (shared : FilePartitions env) (list : HiveMultiFileList env) :
    runJob job shared list = match env.jobChecks job with
      | .error exception => (some exception, shared, list)
      | .ok () => addFiles (env.jobSteps job) shared list := by
  unfold runJob jobChecks
  rw [if_neg partitioned]
  cases job.partitions.forM fun index => env.scan.verifyConsistentPartitionSerDe env.db (env.partition index) with
  | error exception => rfl
  | ok _ =>
      cases root : job.root with
      | true =>
          by_cases empty : rtrim env.scan.rootLocation '/' = []
          · simp only [listRoot, empty, if_true, and_self]
            rfl
          · simp only [listRoot, jobSteps, empty, root, if_true, if_false, and_false]
            cases counted : job.partitions.forM env.checkValueCount <;>
              simp only [bind, Except.bind]
      | false =>
          simp only [listPartitions, jobSteps, root, Bool.false_eq_true, if_false, false_and]
          cases counted : job.partitions.forM env.checkValueCount <;>
            simp only [bind, Except.bind]

theorem expandAll_outcome (calls : Nat) (planned : list.planned = true)
    (enough : list.listingJobs.length < list.nextJob + calls) : Outcome list (expandAll calls shared list) := by
  induction calls generalizing shared list with
  | zero =>
      refine ⟨rfl, le_rfl, (fun _ thrown => by cases thrown), fun _ job member => ?_, fun _ member => .inl member⟩
      rw [List.drop_eq_nil_of_le (by omega)] at member
      cases member
  | succ calls ih =>
      have ready : list.planListings = list := by simp [planListings, planned]
      rw [expandAll, expandNextPath, ready]
      cases left : list.listingJobs[list.nextJob]? with
      | none =>
          refine ⟨rfl, le_rfl, (fun _ thrown => by cases thrown), fun _ job member => ?_, fun _ member => .inl member⟩
          rw [List.drop_eq_nil_of_le (List.getElem?_eq_none_iff.mp left)] at member
          cases member
      | some job =>
          have inside : job ∈ list.listingJobs := List.mem_of_getElem? left
          have here : job ∈ list.listingJobs.take (list.nextJob + 1) := by
            rw [List.take_add_one, left]
            simp
          have rest : list.listingJobs.drop list.nextJob = job :: list.listingJobs.drop (list.nextJob + 1) :=
            List.drop_eq_getElem?_toList_append.trans (by rw [left]; rfl)
          dsimp only
          rw [runJob_eq partitioned]
          cases checked : env.jobChecks job with
          | error exception =>
              refine ⟨rfl, Nat.le_succ _, fun other same => ?_, (fun through => by cases through), fun _ member => .inl member⟩
              cases same
              exact ⟨job, here, .inl checked⟩
          | ok _ =>
              have same := addFiles_samePlan (env.jobSteps job) shared { list with nextJob := list.nextJob + 1 }
              have expanded := fun file => @addFiles_expanded env shared { list with nextJob := list.nextJob + 1 }
                (env.jobSteps job) file
              have complete := @addFiles_eq_none env (env.jobSteps job) shared { list with nextJob := list.nextJob + 1 }
              have stopped := fun exception => @addFiles_thrown env (env.jobSteps job) shared
                { list with nextJob := list.nextJob + 1 } exception
              dsimp only
              generalize addFiles (env.jobSteps job) shared { list with nextJob := list.nextJob + 1 } = ran at *
              obtain ⟨thrown, later, other⟩ := ran
              cases thrown with
              | some exception =>
                  refine ⟨same.listingJobs, same.nextJob ▸ Nat.le_succ _, fun another equal => ?_,
                    (fun through => by cases through),
                    fun file member => ?_⟩
                  · cases equal
                    refine ⟨job, ?_, .inr (stopped exception rfl)⟩
                    rw [jobsRun, same.listingJobs, same.nextJob]
                    exact here
                  · cases expanded file member with
                    | inl before => exact .inl before
                    | inr new => exact .inr ⟨job, inside, new⟩
              | none =>
                  have after := @ih later other (same.planned.trans planned) (by
                    rw [same.listingJobs, same.nextJob]
                    dsimp only
                    omega)
                  refine ⟨after.jobs.trans same.listingJobs, ?_, after.thrown, fun through => ?_, fun file member => ?_⟩
                  · have forward := after.forward
                    rw [same.nextJob] at forward
                    exact (Nat.le_succ _).trans forward
                  · have passed := after.passed through
                    rw [same.listingJobs, same.nextJob] at passed
                    rw [rest]
                    exact List.forall_mem_cons.mpr ⟨complete.mp rfl, passed⟩
                  · cases after.added file member with
                    | inl before =>
                        cases expanded file before with
                        | inl earlier => exact .inl earlier
                        | inr new => exact .inr ⟨job, inside, new⟩
                    | inr new =>
                        rw [same.listingJobs] at new
                        exact .inr new

/-- Unless a job was refused before its files were looked at, a full expansion throws
the refusal of a shared location exactly when it lists a data file of such a location
that is read. It never returns a file of a shared location. -/
theorem expandFully_refuses (fresh : list.nextJob = 0 ∧ list.expandedFiles = [])
    (split : env.Split list.indexes list.planListings.listingJobs) :
    (¬ CheckThrown (expandFully shared list) → (SharedThrown (expandFully shared list) ↔
        ∃ job ∈ jobsRun (expandFully shared list), ∃ file ∈ env.jobFiles job, env.SharedRead list.indexes file)) ∧
      ∀ file ∈ (expandFully shared list).2.2.expandedFiles, ∀ index,
        env.IsDeepest (comparableLocation file.path) (env.locationOf index) → ¬ env.IsShared index := by
  have fresh_plan : list.planListings.nextJob = 0 ∧ list.planListings.expandedFiles = [] := by
    unfold planListings
    split_ifs <;> exact fresh
  have planned : list.planListings.planned = true := planListings_planned partitioned
  have outcome : Outcome list.planListings (expandFully shared list) := by
    have again : list.planListings.planListings = list.planListings := by
      rw [planListings, if_pos planned]
    have same : expandFully shared list = expandAll (list.planListings.listingJobs.length + 1) shared list.planListings := by
      rw [expandFully, expandAll, expandAll, expandNextPath, expandNextPath, again]
    rw [same]
    exact expandAll_outcome partitioned _ planned (by omega)
  have inPlan : ∀ job ∈ jobsRun (expandFully shared list), job ∈ list.planListings.listingJobs := by
    intro job ran
    rw [← outcome.jobs]
    exact List.mem_of_mem_take ran
  refine ⟨fun unchecked => ⟨?_, ?_⟩, fun file member index deepest => ?_⟩
  · intro refused
    obtain ⟨exception, thrown, -⟩ := refused
    obtain ⟨job, ran, checked | step⟩ := outcome.thrown exception thrown
    · exact absurd ⟨exception, thrown, job, ran, checked⟩ unchecked
    · obtain ⟨file, listed, index, read, shared⟩ := jobSteps_refused (split.below (inPlan job ran)) step
      exact ⟨job, ran, file, listed, index, split.mem_partitions (inPlan job ran) read, shared⟩
  · intro found
    obtain ⟨job, ran, file, listed, read⟩ := found
    cases through : (expandFully shared list).1 with
    | none =>
        have passed := outcome.passed through
        rw [fresh_plan.1, List.drop_zero] at passed
        exact absurd read (split.not_shared passed (inPlan job ran) listed)
    | some exception =>
        obtain ⟨job, ran, checked | step⟩ := outcome.thrown exception through
        · exact absurd ⟨exception, through, job, ran, checked⟩ unchecked
        · exact ⟨exception, through, jobSteps_refusal step⟩
  · cases outcome.added file member with
    | inl before =>
        rw [fresh_plan.2] at before
        cases before
    | inr added =>
        obtain ⟨job, -, owner, added⟩ := added
        obtain ⟨ownerDeepest, alone⟩ := jobSteps_unshared added
        exact fun shared => alone (shared.congr (ownerDeepest.unique deepest))

/-- A list that has planned nothing yet is split as `PlanListings` splits it. -/
theorem split_unplanned (unplanned : list.planned = false) (nothing : list.listingJobs = []) :
    env.Split list.indexes list.planListings.listingJobs := by
  rw [planListings_of_unplanned partitioned unplanned, nothing]
  exact plan_split list.indexes

end Expansion

section Examples

/-- Two days registered at one directory, and another partition. -/
def sharedDays (more : GluePartitionInfo) (root : Text) (objects : List StoredObject) : HiveListing where
  scan := { tableName := "events", rootLocation := root, partitionKeys := ["day".toList] }
  partitions := [⟨["1".toList], "s3://bucket/days", [], [], ∅, []⟩,
    ⟨["2".toList], "s3a://bucket/days/", [], [], ∅, []⟩, more]
  fs := .ofObjects objects
  db := ⟨fun _ => none⟩
  threads := 2
  threshold := some 1

def firstDay (more : GluePartitionInfo) (root : Text) (objects : List StoredObject) :
    (sharedDays more root objects).Index := ⟨0, by simp [sharedDays]⟩

theorem firstDay_isShared (more : GluePartitionInfo) (root : Text) (objects : List StoredObject) :
    (sharedDays more root objects).IsShared (firstDay more root objects) := by
  have same : comparableLocation "s3a://bucket/days/" = comparableLocation "s3://bucket/days" := by decide +kernel
  exact ⟨⟨1, by simp [sharedDays]⟩, by simp [firstDay], same⟩

/-- The third partition has a value too many. -/
def miscountedDay : HiveListing :=
  sharedDays ⟨["3".toList, "x".toList], "s3://bucket/days/three", [], [], ∅, []⟩ "s3://bucket"
    [⟨"s3://bucket/days/a.parquet", some 10⟩]

/-- The table's own location is below a hidden directory of the shared one. -/
def hiddenRoot : HiveListing :=
  sharedDays ⟨["3".toList], "s3://bucket/days/_old/three", [], [], ∅, []⟩ "s3://bucket/days/_old"
    [⟨"s3://bucket/days/_old/a/a.parquet", some 10⟩]

/-- The third day is below the shared directory of the first two. -/
def nestedDay : HiveListing :=
  sharedDays ⟨["3".toList], "s3://bucket/days/three", [], [], ∅, []⟩ "s3://bucket"
    [⟨"s3://bucket/days/a.parquet", some 10⟩, ⟨"s3://bucket/days/three/b.parquet", some 10⟩]

/-- A wrong value count is reported instead of the shared location; and a file the
root's listing finds below a shared location is not refused where it is hidden from
that location. -/
theorem expandFully_unrefused :
    (¬ ∀ (env : HiveListing) (list : HiveMultiFileList env), env.scan.partitionKeys ≠ [] →
      list.nextJob = 0 ∧ list.expandedFiles = [] → env.Split list.indexes list.planListings.listingJobs →
      (SharedThrown (expandFully ∅ list) ↔ ∃ job ∈ jobsRun (expandFully ∅ list), ∃ file ∈ env.jobFiles job,
        ∃ index ∈ list.indexes, env.IsShared index ∧
          env.IsDeepest (comparableLocation file.path) (env.locationOf index))) ∧
    ¬ ∀ (env : HiveListing) (list : HiveMultiFileList env), env.scan.partitionKeys ≠ [] →
      list.nextJob = 0 ∧ list.expandedFiles = [] → env.Split list.indexes list.planListings.listingJobs →
      ¬ CheckThrown (expandFully ∅ list) →
      (SharedThrown (expandFully ∅ list) ↔ ∃ job ∈ jobsRun (expandFully ∅ list), ∃ file ∈ env.jobFiles job,
        ∃ index ∈ list.indexes, env.IsShared index ∧
          env.IsDeepest (comparableLocation file.path) (env.locationOf index)) := by
  constructor
  · intro always
    have keyed : miscountedDay.scan.partitionKeys ≠ [] := by decide +kernel
    have iff := always miscountedDay {} keyed ⟨rfl, rfl⟩ (split_unplanned keyed rfl rfl)
    have thrown : (expandFully ∅ ({} : HiveMultiFileList miscountedDay)).1.map (·.type) = some .invalidInput := by
      decide +kernel
    have ran : (jobsRun (expandFully ∅ ({} : HiveMultiFileList miscountedDay))).map (·.root) = [true] := by
      decide +kernel
    obtain ⟨job, only⟩ := List.map_eq_singleton_iff.mp ran
    have listed : ⟨"s3://bucket/days/a.parquet", some 10⟩ ∈ miscountedDay.jobFiles job := by
      rw [jobFiles, if_pos only.2]
      decide +kernel
    have deepest : miscountedDay.IsDeepest (comparableLocation "s3://bucket/days/a.parquet")
        (miscountedDay.locationOf (firstDay _ _ _)) := by
      refine ⟨⟨_, rfl⟩, by decide +kernel, ?_, ?_⟩ <;> unfold Holds Segments.Below <;> decide +kernel
    obtain ⟨exception, some, owner, sharing, rfl⟩ := iff.mpr ⟨job, by rw [only.1]; exact List.mem_singleton_self job, _,
      listed, firstDay _ _ _, List.mem_finRange _, firstDay_isShared _ _ _, deepest⟩
    rw [some] at thrown
    cases thrown
  · intro always
    have keyed : hiddenRoot.scan.partitionKeys ≠ [] := by decide +kernel
    have through : (expandFully ∅ ({} : HiveMultiFileList hiddenRoot)).1 = none := by decide +kernel
    have iff := always hiddenRoot {} keyed ⟨rfl, rfl⟩ (split_unplanned keyed rfl rfl) (by simp [CheckThrown, through])
    have ran : ((jobsRun (expandFully ∅ ({} : HiveMultiFileList hiddenRoot))).map (·.root)).head? = some true := by
      decide +kernel
    rw [List.head?_map, Option.map_eq_some_iff] at ran
    obtain ⟨job, first, isRoot⟩ := ran
    have listed : ⟨"s3://bucket/days/_old/a/a.parquet", some 10⟩ ∈ hiddenRoot.jobFiles job := by
      rw [jobFiles, if_pos isRoot]
      decide +kernel
    have deepest : hiddenRoot.IsDeepest (comparableLocation "s3://bucket/days/_old/a/a.parquet")
        (hiddenRoot.locationOf (firstDay _ _ _)) := by
      refine ⟨⟨_, rfl⟩, by decide +kernel, ?_, ?_⟩ <;> unfold Holds Segments.Below <;> decide +kernel
    obtain ⟨exception, some, -⟩ := iff.mpr ⟨job, List.mem_of_mem_head? first, _, listed, firstDay _ _ _,
      List.mem_finRange _, firstDay_isShared _ _ _, deepest⟩
    rw [through] at some
    cases some

theorem expandFully_refuses_nestedDay :
    SharedThrown (expandFully ∅ ({} : HiveMultiFileList nestedDay)) ↔
      ∃ job ∈ jobsRun (expandFully ∅ ({} : HiveMultiFileList nestedDay)), ∃ file ∈ nestedDay.jobFiles job,
        nestedDay.SharedRead (HiveMultiFileList.indexes {}) file := by
  have keyed : nestedDay.scan.partitionKeys ≠ [] := by decide +kernel
  have checked : ∀ job ∈ jobsRun (expandFully ∅ ({} : HiveMultiFileList nestedDay)),
      (nestedDay.jobChecks job).isOk = true := by decide +kernel
  apply (expandFully_refuses keyed ⟨rfl, rfl⟩ (split_unplanned keyed rfl rfl)).1
  intro refused
  obtain ⟨exception, -, job, ran, error⟩ := refused
  have ok := checked job ran
  rw [error] at ok
  cases ok

end Examples

end HiveMultiFileList

end DuckGlue
