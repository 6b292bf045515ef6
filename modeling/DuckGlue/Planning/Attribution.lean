import Mathlib.Data.List.Flatten
import DuckGlue.Planning.ListedFiles
import DuckGlue.Planning.ListingSample

/-! # Attribution of files to partitions

The lists of a scan expand, sample, are copied and pruned in any order, and share
the partition every file was attributed to. Each of them attributes a file to its
owner, so they never disagree; and a list that expanded fully holds exactly the
files of the partitions it reads.
-/

namespace DuckGlue

open StringUtil Fallible HiveListing HiveMultiFileList

/-- A scan with its lists, numbered in the order they were made. -/
structure HiveScanState (env : HiveListing) where
  filePartitions : FilePartitions env
  lists : List (HiveMultiFileList env)

inductive ListOperation (env : HiveListing) where
  | expandNextPath (list : Nat)
  | listSampleDirectory (list available : Nat)
  | copy (list : Nat)
  | prune (list : Nat) (keep : env.Index → Bool)

namespace HiveScanState

variable {env : HiveListing}

/-- The list a scan is bound with. -/
def start (partitionIndexes : Option (List env.Index)) : HiveScanState env :=
  ⟨∅, [{ partitionIndexes }]⟩

/-- One operation on one list, and what it throws. -/
def step (state : HiveScanState env) : ListOperation env → Option Exception × HiveScanState env
  | .expandNextPath position =>
      match state.lists[position]? with
      | none => (none, state)
      | some list =>
          match list.expandNextPath state.filePartitions with
          | (.error exception, shared, list) => (some exception, ⟨shared, state.lists.set position list⟩)
          | (.ok _, shared, list) => (none, ⟨shared, state.lists.set position list⟩)
  | .listSampleDirectory position available =>
      match state.lists[position]? with
      | none => (none, state)
      | some list =>
          let (_, shared, list) := list.listSampleDirectory available state.filePartitions
          (none, ⟨shared, state.lists.set position list⟩)
  | .copy position =>
      match state.lists[position]? with
      | none => (none, state)
      | some list => (none, { state with lists := state.lists ++ [list.copy] })
  | .prune position keep =>
      match state.lists[position]? with
      | none => (none, state)
      | some list => (none, { state with lists := state.lists ++ [list.prune keep] })

/-- What was done, in order, and what it threw. -/
abbrev Trace (env : HiveListing) := List (ListOperation env × Option Exception)

/-- A run of any operations. -/
inductive Run (first : HiveScanState env) : Trace env → HiveScanState env → Prop where
  | start : Run first [] first
  | step {trace state} (operation : ListOperation env) (before : Run first trace state) :
      Run first (trace ++ [(operation, (state.step operation).1)]) (state.step operation).2

/-- No listing of the list at this position threw. -/
def Unfailed (trace : Trace env) (position : Nat) : Prop :=
  ∀ exception, (ListOperation.expandNextPath position, some exception) ∉ trace

end HiveScanState

namespace HiveMultiFileList

variable {env : HiveListing}

/-- The files a list holds are those its finished jobs add, none of which threw. -/
structure Expanded (list : HiveMultiFileList env) : Prop where
  passed : ∀ job ∈ list.listingJobs.take list.nextJob, ∀ step ∈ env.jobSteps job, ∃ found, step = .ok found
  listed : ∀ path, path ∈ list.listedFiles ↔ ∃ job ∈ list.listingJobs.take list.nextJob,
    ∃ file index, .ok (some (file, index)) ∈ env.jobSteps job ∧ file.path = path

/-- What is kept of one list of a partitioned table. -/
structure Sound (shared : FilePartitions env) (list : HiveMultiFileList env) : Prop where
  nodup : list.indexes.Nodup
  wellFormed : list.WellFormed
  known : ∀ path ∈ list.listedFiles, ∃ index, shared.lookup path = some index
  planned : list.planned = true → list.listingJobs = plan env list.indexes
  unplanned : list.planned = false → list.listingJobs = [] ∧ list.nextJob = 0

/-- Partitions already known stay known. -/
def Extends (shared later : FilePartitions env) : Prop :=
  ∀ path, (∃ index, shared.lookup path = some index) → ∃ index, later.lookup path = some index

/-- Files are attributed to their owners. -/
def Owned (shared : FilePartitions env) : Prop :=
  ∀ path index, shared.lookup path = some index → env.owningPartition path 0 = some index

variable {shared later : FilePartitions env} {list : HiveMultiFileList env}

theorem Sound.extend (sound : list.Sound shared) (extends_ : Extends shared later) : list.Sound later :=
  { sound with known := fun path member => extends_ path (sound.known path member) }

theorem sound_fresh {partitionIndexes : Option (List env.Index)}
    (nodup : ∀ indexes, partitionIndexes = some indexes → indexes.Nodup) :
    Sound shared ({ partitionIndexes } : HiveMultiFileList env) where
  nodup := by
    cases partitionIndexes with
    | none => exact List.nodup_finRange _
    | some indexes => exact nodup indexes rfl
  wellFormed := ⟨List.nodup_nil, by simp⟩
  known := by simp
  planned := nofun
  unplanned := fun _ => ⟨rfl, rfl⟩

theorem expanded_fresh {partitionIndexes : Option (List env.Index)} :
    Expanded ({ partitionIndexes } : HiveMultiFileList env) :=
  ⟨by simp, by simp⟩

theorem sound_copy (sound : list.Sound shared) : list.copy.Sound shared := by
  refine sound_fresh fun indexes given => ?_
  have nodup := sound.nodup
  unfold HiveMultiFileList.indexes at nodup
  rwa [given, Option.getD_some] at nodup

theorem sound_prune (sound : list.Sound shared) (keep : env.Index → Bool) : (list.prune keep).Sound shared := by
  refine sound_fresh fun indexes given => ?_
  obtain rfl := Option.some.inj given
  exact sound.nodup.filter _

section Plan

variable (partitioned : env.scan.partitionKeys ≠ [])
include partitioned

theorem planListings_of_unplanned (unplanned : list.planned = false) : list.planListings =
    { list with planned := true, listingJobs := list.listingJobs ++ plan env list.indexes } := by
  simp [planListings, unplanned, partitioned]

theorem sound_planListings (sound : list.Sound shared) : list.planListings.Sound shared := by
  cases planned : list.planned with
  | true => simpa [planListings, planned] using sound
  | false =>
      rw [planListings_of_unplanned partitioned planned]
      exact { sound with
        wellFormed := ⟨sound.wellFormed.distinct, sound.wellFormed.listed⟩
        planned := fun _ => by simp [(sound.unplanned planned).1, HiveMultiFileList.indexes]
        unplanned := nofun }

theorem expanded_planListings (sound : list.Sound shared) (expanded : list.Expanded) : list.planListings.Expanded := by
  cases planned : list.planned with
  | true => simpa [planListings, planned] using expanded
  | false =>
      rw [planListings_of_unplanned partitioned planned]
      obtain ⟨jobs, next⟩ := sound.unplanned planned
      have nothing := expanded.listed
      simp only [jobs, next, List.take_nil, List.not_mem_nil, false_and, exists_false, iff_false] at nothing
      refine ⟨by simp [next], ?_⟩
      simpa [next] using nothing

theorem planListings_planned : list.planListings.planned = true := by
  cases planned : list.planned with
  | true => simp [planListings, planned]
  | false => simp [planListings_of_unplanned partitioned planned]

/-- A job either throws before it adds anything or runs its steps. -/
theorem runJob_cases (job : ListingJob env) :
    (∃ exception, runJob job shared list = (some exception, shared, list)) ∨
      runJob job shared list = addFiles (env.jobSteps job) shared list := by
  unfold runJob
  rw [if_neg partitioned]
  cases job.partitions.forM fun index => env.scan.verifyConsistentPartitionSerDe env.db (env.partition index) with
  | error exception => exact .inl ⟨exception, rfl⟩
  | ok _ =>
      cases root : job.root with
      | true =>
          simp only [if_true, listRoot, jobSteps, root]
          by_cases empty : rtrim env.scan.rootLocation '/' = []
          · exact .inl ⟨_, if_pos empty⟩
          · rw [if_neg empty]
            cases job.partitions.forM env.checkValueCount with
            | error exception => exact .inl ⟨exception, rfl⟩
            | ok _ => exact .inr rfl
      | false =>
          simp only [Bool.false_eq_true, if_false, listPartitions, jobSteps, root]
          cases job.partitions.forM env.checkValueCount with
          | error exception => exact .inl ⟨exception, rfl⟩
          | ok _ => exact .inr rfl

end Plan

section Run

/-- The parts of a list the loop over its files leaves alone. -/
structure SamePlan (list other : HiveMultiFileList env) : Prop where
  partitionIndexes : other.partitionIndexes = list.partitionIndexes
  planned : other.planned = list.planned
  listingJobs : other.listingJobs = list.listingJobs
  nextJob : other.nextJob = list.nextJob

theorem addFiles_samePlan (steps : List env.FileStep) (shared : FilePartitions env) (list : HiveMultiFileList env) :
    SamePlan list (addFiles steps shared list).2.2 := by
  refine addFiles_induction (P := fun _ other => SamePlan list other) ?_ ⟨rfl, rfl, rfl, rfl⟩
  intro file index shared other _ same
  unfold addFile
  split_ifs
  · exact same
  · exact ⟨same.partitionIndexes, same.planned, same.listingJobs, same.nextJob⟩

theorem addFiles_wellFormed (steps : List env.FileStep) (wellFormed : list.WellFormed) :
    (addFiles steps shared list).2.2.WellFormed :=
  addFiles_induction (P := fun _ other => other.WellFormed) (fun _ _ _ _ _ kept => kept.addFile) wellFormed

theorem extends_insert {file : OpenFileInfo} {index : env.Index} :
    Extends shared (shared.insert file.path index) := fun _ known => lookup_insert_known known

theorem addFiles_extends (steps : List env.FileStep) : Extends shared (addFiles steps shared list).2.1 := by
  refine addFiles_induction (P := fun later _ => Extends shared later) ?_ (fun _ known => known)
  intro file index later other _ kept path known
  unfold addFile
  split_ifs
  · exact kept path known
  · exact extends_insert path (kept path known)

theorem addFiles_attributes {steps : List env.FileStep}
    (owned : ∀ file index, .ok (some (file, index)) ∈ steps → env.owningPartition file.path 0 = some index)
    (attributes : Attributes shared list) :
    Attributes (addFiles steps shared list).2.1 (addFiles steps shared list).2.2 :=
  addFiles_induction (P := Attributes) (fun _ _ _ _ added kept => kept.addFile (owned _ _ added)) attributes

/-- The loop of a job keeps what is kept of a planned list. -/
theorem addFiles_sound {job : ListingJob env} (owned : Owned shared) (sound : list.Sound shared)
    (planned : list.planned = true) :
    Owned (addFiles (env.jobSteps job) shared list).2.1 ∧
      (addFiles (env.jobSteps job) shared list).2.2.Sound (addFiles (env.jobSteps job) shared list).2.1 := by
  have same := addFiles_samePlan (env.jobSteps job) shared list
  have attributes : Attributes (addFiles (env.jobSteps job) shared list).2.1
      (addFiles (env.jobSteps job) shared list).2.2 :=
    addFiles_attributes (fun _ _ added => jobSteps_owned added) ⟨owned, sound.known⟩
  have indexes : (addFiles (env.jobSteps job) shared list).2.2.indexes = list.indexes := by
    simp only [HiveMultiFileList.indexes, same.partitionIndexes]
  refine ⟨attributes.owned, ?_⟩
  exact {
    nodup := by rw [indexes]; exact sound.nodup
    wellFormed := addFiles_wellFormed _ sound.wellFormed
    known := attributes.known
    planned := fun _ => by rw [same.listingJobs, indexes, sound.planned planned]
    unplanned := fun unplanned => by simp [same.planned, planned] at unplanned }

variable (partitioned : env.scan.partitionKeys ≠ [])
include partitioned

/-- What one listing does to a list that has a job left. -/
theorem expandNextPath_of_job (shared : FilePartitions env) {job : ListingJob env} (left : list.planListings.listingJobs[list.planListings.nextJob]? =
    some job) :
    (∃ exception, list.expandNextPath shared =
        (.error exception, shared, { list.planListings with nextJob := list.planListings.nextJob + 1 })) ∨
      ((list.expandNextPath shared).2 =
          (addFiles (env.jobSteps job) shared
            { list.planListings with nextJob := list.planListings.nextJob + 1 }).2 ∧
        ((list.expandNextPath shared).1.isOk = true ↔ (addFiles (env.jobSteps job) shared
            { list.planListings with nextJob := list.planListings.nextJob + 1 }).1 = none)) := by
  simp only [expandNextPath, left]
  obtain ⟨exception, thrown⟩ | ran := runJob_cases partitioned job
  · refine .inl ⟨exception, ?_⟩
    rw [thrown]
  · refine .inr ?_
    rw [ran]
    match addFiles (env.jobSteps job) shared { list.planListings with nextJob := list.planListings.nextJob + 1 } with
    | (some exception, later, other) => exact ⟨rfl, by simp [Except.isOk, Except.toBool]⟩
    | (none, later, other) => exact ⟨rfl, by simp [Except.isOk, Except.toBool]⟩

/-- The list before a job, the job counted as run. -/
theorem sound_nextJob (sound : list.Sound shared) :
    Sound shared { list.planListings with nextJob := list.planListings.nextJob + 1 } :=
  let ready := sound_planListings partitioned sound
  { ready with
    wellFormed := ⟨ready.wellFormed.distinct, ready.wellFormed.listed⟩
    unplanned := fun unplanned => by simp [planListings_planned partitioned] at unplanned }

theorem expandNextPath_sound (owned : Owned shared) (sound : list.Sound shared) :
    Owned (list.expandNextPath shared).2.1 ∧ Extends shared (list.expandNextPath shared).2.1 ∧
      (list.expandNextPath shared).2.2.Sound (list.expandNextPath shared).2.1 := by
  cases left : list.planListings.listingJobs[list.planListings.nextJob]? with
  | none =>
      simp only [expandNextPath, left]
      exact ⟨owned, fun _ known => known, sound_planListings partitioned sound⟩
  | some job =>
      have ready := sound_nextJob partitioned sound
      obtain ⟨exception, thrown⟩ | ⟨ran, -⟩ := expandNextPath_of_job partitioned shared left
      · rw [thrown]
        exact ⟨owned, fun _ known => known, ready⟩
      · rw [ran]
        obtain ⟨later, kept⟩ := addFiles_sound owned ready (planListings_planned partitioned)
        exact ⟨later, addFiles_extends _, kept⟩

/-- A listing that does not throw adds the files of its job. -/
theorem expandNextPath_expanded (sound : list.Sound shared) (expanded : list.Expanded)
    (completed : (list.expandNextPath shared).1.isOk = true) : (list.expandNextPath shared).2.2.Expanded := by
  have before := expanded_planListings partitioned sound expanded
  cases left : list.planListings.listingJobs[list.planListings.nextJob]? with
  | none => simpa only [expandNextPath, left] using before
  | some job =>
      obtain ⟨exception, thrown⟩ | ⟨ran, complete⟩ := expandNextPath_of_job partitioned shared left
      · rw [thrown] at completed
        nomatch completed
      · rw [ran]
        have through := complete.mp completed
        have same := addFiles_samePlan (env.jobSteps job) shared
          { list.planListings with nextJob := list.planListings.nextJob + 1 }
        have jobs : ∀ other, other ∈ (addFiles (env.jobSteps job) shared
            { list.planListings with nextJob := list.planListings.nextJob + 1 }).2.2.listingJobs.take
              (addFiles (env.jobSteps job) shared
                { list.planListings with nextJob := list.planListings.nextJob + 1 }).2.2.nextJob ↔
            other ∈ list.planListings.listingJobs.take list.planListings.nextJob ∨ other = job := by
          intro other
          rw [same.listingJobs, same.nextJob, List.take_add_one, left]
          simp
        refine ⟨?_, ?_⟩
        · intro other member step
          obtain earlier | rfl := (jobs other).mp member
          · exact before.passed other earlier step
          · exact addFiles_eq_none.mp through step
        · intro path
          rw [addFiles_listed through, before.listed path]
          simp only [jobs]
          grind

end Run

section Sample

/-- Every file of a sample is put to the partition that owns it. -/
def AllOwned (files : List (OpenFileInfo × env.Index)) : Prop :=
  ∀ found ∈ files, env.owningPartition found.1.path 0 = some found.2

theorem sampleFile_owned {reading : List env.Index} {file : OpenFileInfo} {state : SampleState env}
    (owned : AllOwned state.files) : AllOwned (sampleFile reading file state).1.files := by
  unfold sampleFile
  dsimp only
  split_ifs
  · exact owned
  · exact owned
  · split
    · exact owned
    · rename_i owner found
      intro entry member
      have files : (sampleOwned reading file owner
          { state with inSampled := state.sampled.isSome &&
              startsWith (comparableLocation file.path) state.sampledPrefix }).files = state.files ++ [(file, owner)] := by
        unfold sampleOwned
        dsimp only
        split_ifs <;> rfl
      rw [files] at member
      obtain earlier | last := List.mem_append.mp member
      · exact owned entry earlier
      · obtain rfl := List.mem_singleton.mp last
        exact owningPartition_zero found

theorem sampleLoop_owned {reading : List env.Index} (files : List OpenFileInfo) (available : Nat)
    {state : SampleState env} (owned : AllOwned state.files) :
    AllOwned (sampleLoop reading files available state).files := by
  induction files generalizing available state with
  | nil =>
      unfold sampleLoop
      split_ifs <;> exact owned
  | cons file rest ih =>
      unfold sampleLoop
      dsimp only
      split_ifs
      · exact owned
      · exact ih _ (sampleFile_owned owned)
      · exact sampleFile_owned owned

theorem sampledFiles_owned (reading : List env.Index) (available : Nat) :
    AllOwned (sampledFiles reading available) := by
  have whole : AllOwned (sampleLoop reading (env.fs.list (rtrim env.scan.rootLocation '/')) available {}).files :=
    sampleLoop_owned _ _ (fun _ member => absurd member List.not_mem_nil)
  unfold sampledFiles
  dsimp only
  split_ifs
  · exact fun found member => whole found (List.mem_of_mem_take member)
  · exact whole

theorem sampledPartition_owned (index : env.Index) : AllOwned (sampledPartition index) := by
  intro found member
  simp only [sampledPartition, List.mem_map, List.mem_filter] at member
  obtain ⟨file, ⟨listed, kept⟩, rfl⟩ := member
  obtain ⟨nonempty, holds⟩ := listed_holds listed
  obtain ⟨owner, owned⟩ := exists_owner nonempty holds
  simp only [owned, decide_eq_true_eq] at kept
  subst kept
  exact owningPartition_zero owned

theorem attributeFiles_owned {files : List (OpenFileInfo × env.Index)} (all : AllOwned files) (owned : Owned shared) :
    Owned (attributeFiles files shared) ∧ Extends shared (attributeFiles files shared) := by
  unfold attributeFiles
  induction files generalizing shared with
  | nil => exact ⟨owned, fun _ known => known⟩
  | cons found files ih =>
      obtain ⟨here, later⟩ := List.forall_mem_cons.mp all
      obtain ⟨after, extended⟩ := ih later (lookup_insert_owned owned here)
      exact ⟨after, fun path known => extended path (extends_insert path known)⟩

variable (partitioned : env.scan.partitionKeys ≠ [])
include partitioned

/-- A sample attributes files to their owners and plans the list, nothing else. -/
theorem listSampleDirectory_kept (list : HiveMultiFileList env) (available : Nat) (owned : Owned shared) :
    Owned (list.listSampleDirectory available shared).2.1 ∧
      Extends shared (list.listSampleDirectory available shared).2.1 ∧
        (list.listSampleDirectory available shared).2.2 = list.planListings := by
  unfold listSampleDirectory
  dsimp only
  rw [if_neg partitioned]
  split
  · exact ⟨owned, fun _ known => known, rfl⟩
  · obtain ⟨later, extended⟩ := attributeFiles_owned (sampledFiles_owned _ available) owned
    exact ⟨later, extended, rfl⟩
  · exact ⟨owned, fun _ known => known, rfl⟩
  · obtain ⟨later, extended⟩ := attributeFiles_owned (sampledPartition_owned _) owned
    exact ⟨later, extended, rfl⟩

end Sample

end HiveMultiFileList

namespace HiveScanState

variable {env : HiveListing}

/-- What every run keeps of a scan and its lists. -/
structure Kept (trace : Trace env) (state : HiveScanState env) : Prop where
  owned : Owned state.filePartitions
  sound : ∀ list ∈ state.lists, list.Sound state.filePartitions
  expanded : ∀ position list, state.lists[position]? = some list → Unfailed trace position → list.Expanded

variable {trace : Trace env} {state : HiveScanState env}

theorem kept_start {partitionIndexes : Option (List env.Index)}
    (nodup : ∀ indexes, partitionIndexes = some indexes → indexes.Nodup) :
    Kept [] (start partitionIndexes) where
  owned := by
    intro path index found
    simp [start] at found
  sound := by
    intro list member
    obtain rfl := List.mem_singleton.mp member
    exact sound_fresh nodup
  expanded := by
    intro position list here _
    obtain rfl := List.mem_singleton.mp (List.mem_of_getElem? here)
    exact expanded_fresh

/-- A trace without a failure of a list has none before its last operation. -/
theorem Unfailed.of_append {position : Nat} {last : ListOperation env × Option Exception}
    (unfailed : Unfailed (trace ++ [last]) position) : Unfailed trace position :=
  fun exception member => unfailed exception (List.mem_append_left _ member)

/-- Replacing one list keeps what is kept when the list is sound and expanded. -/
theorem kept_set {position : Nat} {list : HiveMultiFileList env} {shared : FilePartitions env}
    {last : ListOperation env × Option Exception} (kept : Kept trace state) (owned : Owned shared)
    (extended : Extends state.filePartitions shared) (sound : list.Sound shared)
    (expanded : Unfailed (trace ++ [last]) position → list.Expanded) :
    Kept (trace ++ [last]) ⟨shared, state.lists.set position list⟩ where
  owned := owned
  sound := by
    intro other member
    obtain old | rfl := List.mem_or_eq_of_mem_set member
    · exact (kept.sound other old).extend extended
    · exact sound
  expanded := by
    intro place other here unfailed
    rw [List.getElem?_set] at here
    split_ifs at here with same inside
    · obtain rfl := Option.some.inj here
      exact expanded (same ▸ unfailed)
    · exact kept.expanded place other here unfailed.of_append

/-- A new list that has listed nothing yet joins the scan. -/
theorem kept_append {last : ListOperation env × Option Exception} {list : HiveMultiFileList env}
    (kept : Kept trace state) (sound : list.Sound state.filePartitions) (expanded : list.Expanded) :
    Kept (trace ++ [last]) { state with lists := state.lists ++ [list] } where
  owned := kept.owned
  sound := by
    intro other member
    obtain old | new := List.mem_append.mp member
    · exact kept.sound other old
    · obtain rfl := List.mem_singleton.mp new
      exact sound
  expanded := by
    intro place other here unfailed
    rw [List.getElem?_append] at here
    split_ifs at here
    · exact kept.expanded place other here unfailed.of_append
    · obtain rfl := List.mem_singleton.mp (List.mem_of_getElem? here)
      exact expanded

theorem kept_unchanged {last : ListOperation env × Option Exception} (kept : Kept trace state) :
    Kept (trace ++ [last]) state :=
  { kept with expanded := fun place list here unfailed => kept.expanded place list here unfailed.of_append }

variable (partitioned : env.scan.partitionKeys ≠ [])
include partitioned

/-- One operation keeps what is kept, whether it throws or not. -/
theorem kept_step (operation : ListOperation env) (kept : Kept trace state) :
    Kept (trace ++ [(operation, (state.step operation).1)]) (state.step operation).2 := by
  cases operation with
  | expandNextPath position =>
      cases here : state.lists[position]? with
      | none => simpa only [step, here] using kept_unchanged kept
      | some list =>
          have sound := kept.sound list (List.mem_of_getElem? here)
          obtain ⟨owned, extended, later⟩ := expandNextPath_sound partitioned kept.owned sound
          have expanded := fun unfailed => expandNextPath_expanded partitioned sound
            (kept.expanded position list here unfailed)
          simp only [step, here]
          cases result : list.expandNextPath state.filePartitions with
          | mk outcome rest =>
              rw [result] at owned extended later expanded
              cases outcome with
              | error exception =>
                  refine kept_set kept owned extended later fun unfailed => ?_
                  exact absurd (List.mem_append_right _ List.mem_cons_self) (unfailed exception)
              | ok more => exact kept_set kept owned extended later fun unfailed => expanded unfailed.of_append rfl
  | listSampleDirectory position available =>
      cases here : state.lists[position]? with
      | none => simpa only [step, here] using kept_unchanged kept
      | some list =>
          have sound := kept.sound list (List.mem_of_getElem? here)
          obtain ⟨owned, extended, same⟩ := listSampleDirectory_kept partitioned list available kept.owned
          simp only [step, here]
          refine kept_set kept owned extended ?_ fun unfailed => ?_
          · rw [same]
            exact (sound_planListings partitioned sound).extend extended
          · rw [same]
            exact expanded_planListings partitioned sound (kept.expanded position list here unfailed.of_append)
  | copy position =>
      cases here : state.lists[position]? with
      | none => simpa only [step, here] using kept_unchanged kept
      | some list =>
          simp only [step, here]
          exact kept_append kept (sound_copy (kept.sound list (List.mem_of_getElem? here))) expanded_fresh
  | prune position keep =>
      cases here : state.lists[position]? with
      | none => simpa only [step, here] using kept_unchanged kept
      | some list =>
          simp only [step, here]
          exact kept_append kept (sound_prune (kept.sound list (List.mem_of_getElem? here)) keep) expanded_fresh

theorem run_kept {partitionIndexes : Option (List env.Index)}
    (nodup : ∀ indexes, partitionIndexes = some indexes → indexes.Nodup)
    (run : Run (start partitionIndexes) trace state) : Kept trace state := by
  induction run with
  | start => exact kept_start nodup
  | step operation before ih => exact kept_step partitioned operation ih

/-- A run that goes on keeps files attributed to their owners. -/
theorem run_owned {more : Trace env} {later : HiveScanState env} (kept : Kept trace state)
    (run : Run state more later) : ∃ whole, Kept whole later := by
  induction run with
  | start => exact ⟨trace, kept⟩
  | step operation before ih =>
      obtain ⟨whole, ih⟩ := ih
      exact ⟨_, kept_step partitioned operation ih⟩

end HiveScanState

namespace HiveMultiFileList

variable {env : HiveListing}

theorem batches_flatten {α : Type} {together : Nat} (positive : 0 < together) (xs : List α) :
    (batches together xs).flatten = xs := by
  have slices : ∀ n, ((List.range n).map fun start => (xs.drop (start * together)).take together).flatten =
      xs.take (n * together) := by
    intro n
    induction n with
    | zero => simp
    | succ n ih =>
        rw [List.range_succ, List.map_append, List.flatten_append, ih, Nat.succ_mul, List.take_add]
        simp
  unfold batches
  rw [slices]
  apply List.take_of_length_le
  have ceiling := Nat.lt_div_mul_add (a := xs.length + together - 1) positive
  omega

/-- Every partition read is in one job, and in it once. -/
theorem plan_partitions (indexes : List env.Index) :
    ((plan env indexes).flatMap (·.partitions)).Perm indexes := by
  have together : 0 < partitionsListedTogether env := by simp [partitionsListedTogether]
  have separate : ∀ xs : List env.Index,
      ((batches (partitionsListedTogether env) xs).map (ListingJob.mk false)).flatMap (·.partitions) = xs := by
    intro xs
    rw [List.flatMap_map]
    exact List.flatten_eq_flatMap.symm.trans (batches_flatten together xs)
  have halves := List.filter_append_perm
    (fun index => isBelowRoot (comparableLocation env.scan.rootLocation) (env.locationOf index)) indexes
  unfold plan
  dsimp only
  split_ifs
  · rw [List.flatMap_cons, separate]
    exact halves
  · rw [separate]
    exact halves

end HiveMultiFileList

namespace HiveListing

variable {env : HiveListing} {index : env.Index} {path : Text}

/-- The file at the path is a data file below the partition's location, and no
deeper registered location holds it. -/
structure ReadAs (env : HiveListing) (index : env.Index) (path : Text) : Prop where
  deepest : env.IsDeepest (comparableLocation path) (env.locationOf index)
  listed : ∃ file ∈ env.fs.listDataFiles (env.partition index).location, file.path = path

/-- Where the steps of a batch pass, each file of a partition read has that partition
as its owner: a shared location would have been refused. -/
theorem owner_of_passed {indexes : List env.Index} (read : index ∈ indexes)
    (passed : ∀ step ∈ env.partitionSteps indexes, ∃ found, step = .ok found) (readAs : env.ReadAs index path) :
    env.owningPartition path 0 = some index ∧
      ∃ file, .ok (some (file, index)) ∈ env.partitionSteps indexes ∧ file.path = path := by
  obtain ⟨deepest, file, listed, rfl⟩ := readAs
  obtain ⟨owner, owned, decided⟩ := partitionStep_listed indexes listed
  have member := mem_partitionSteps.mpr ⟨index, read, file, listed, rfl⟩
  obtain ⟨found, ok⟩ := passed _ member
  obtain ⟨ownerDeepest, first, -⟩ := owningPartition_eq_some.mp owned
  have same := deepest.unique ownerDeepest
  have allowed : env.throwIfLocationShared owner indexes = .ok () := by
    cases thrown : env.throwIfLocationShared owner indexes with
    | ok _ => rfl
    | error exception => simp [decided, thrown, Except.map] at ok
  have own : owner = index := by
    by_contra differs
    refine (throwIfLocationShared_eq_ok ownerDeepest.nonempty first).mp allowed ⟨?_, index, read, same⟩
    exact ⟨index, fun equal => differs equal.symm, same⟩
  subst own
  refine ⟨owned, file, ?_, rfl⟩
  rw [decided, allowed] at member
  simpa [Except.map] using member

end HiveListing

namespace HiveMultiFileList

variable {env : HiveListing} {shared : FilePartitions env} {list other last : HiveMultiFileList env}

/-- The files of the partitions the list reads, each path once, and each under its
own partition. -/
structure Exact (shared : FilePartitions env) (list : HiveMultiFileList env) : Prop where
  once : (list.expandedFiles.map (·.path)).Nodup
  files : ∀ path, path ∈ list.expandedFiles.map (·.path) ↔ ∃ index ∈ list.indexes, env.ReadAs index path
  attributed : ∀ index ∈ list.indexes, ∀ path, env.ReadAs index path → shared.lookup path = some index

/-- The lists read the same partitions, in the same jobs. -/
structure SameListing (list other : HiveMultiFileList env) : Prop where
  indexes : other.indexes = list.indexes
  jobs : other.planListings.listingJobs = list.planListings.listingJobs

theorem SameListing.trans (first : SameListing list other) (second : SameListing other last) : SameListing list last :=
  ⟨second.indexes.trans first.indexes, second.jobs.trans first.jobs⟩

theorem planListings_keeps (list : HiveMultiFileList env) :
    list.planListings.indexes = list.indexes ∧ list.planListings.expandedFiles = list.expandedFiles := by
  unfold planListings
  split_ifs <;> exact ⟨rfl, rfl⟩

theorem planListings_of_planned (planned : list.planned = true) : list.planListings = list :=
  if_pos planned

/-- `ExpandNextPath` answers that nothing is left when every job has run. -/
theorem expandNextPath_finished (finished : (list.expandNextPath shared).1 = .ok false) :
    (list.expandNextPath shared).2.2 = list.planListings ∧
      list.planListings.listingJobs.length ≤ list.planListings.nextJob := by
  cases left : list.planListings.listingJobs[list.planListings.nextJob]? with
  | none =>
      simp only [expandNextPath, left]
      exact ⟨trivial, List.getElem?_eq_none_iff.mp left⟩
  | some job =>
      simp only [expandNextPath, left] at finished
      split at finished <;> cases finished

theorem expandNextPath_exhausted (ran : list.planListings.listingJobs.length ≤ list.planListings.nextJob) :
    (list.expandNextPath shared).1 = .ok false := by
  simp only [expandNextPath, List.getElem?_eq_none_iff.mpr ran]

section Exhaustion

variable (partitioned : env.scan.partitionKeys ≠ [])
include partitioned

/-- Every partition a list reads is in one of its jobs, and in it once. -/
theorem planListings_partitions (sound : list.Sound shared) :
    (list.planListings.listingJobs.flatMap (·.partitions)).Perm list.indexes := by
  have planned := (sound_planListings partitioned sound).planned (planListings_planned partitioned)
  rw [planned, (planListings_keeps list).1]
  exact plan_partitions list.indexes

theorem sameListing_of_samePlan {next : Nat} (same : SamePlan { list.planListings with nextJob := next } other) :
    SameListing list other := by
  have planned : other.planned = true := same.planned.trans (planListings_planned partitioned)
  have indexes : other.indexes = list.planListings.indexes := by
    simp only [HiveMultiFileList.indexes, same.partitionIndexes]
  refine ⟨indexes.trans (planListings_keeps list).1, ?_⟩
  rw [planListings_of_planned planned]
  exact same.listingJobs

/-- One listing: the same partitions in the same jobs, and a job less if it found one. -/
theorem expandNextPath_sameListing (shared : FilePartitions env) (list : HiveMultiFileList env) :
    SameListing list (list.expandNextPath shared).2.2 ∧
      ((list.expandNextPath shared).1 = .ok true → (list.expandNextPath shared).2.2.planListings.nextJob =
        list.planListings.nextJob + 1) := by
  have planned : list.planListings.planned = true := planListings_planned partitioned
  cases left : list.planListings.listingJobs[list.planListings.nextJob]? with
  | none =>
      simp only [expandNextPath, left]
      refine ⟨sameListing_of_samePlan partitioned ⟨rfl, rfl, rfl, rfl⟩, fun more => ?_⟩
      cases more
  | some job =>
      have counted : ∀ other, SamePlan { list.planListings with nextJob := list.planListings.nextJob + 1 } other →
          SameListing list other ∧ other.planListings.nextJob = list.planListings.nextJob + 1 := by
        intro other same
        refine ⟨sameListing_of_samePlan partitioned same, ?_⟩
        rw [planListings_of_planned (same.planned.trans planned)]
        exact same.nextJob
      cases expandNextPath_of_job partitioned shared left with
      | inl thrown =>
          obtain ⟨exception, thrown⟩ := thrown
          rw [thrown]
          exact ⟨(counted _ ⟨rfl, rfl, rfl, rfl⟩).1, fun _ => (counted _ ⟨rfl, rfl, rfl, rfl⟩).2⟩
      | inr ran =>
          rw [ran.1]
          obtain ⟨same, next⟩ := counted _ (addFiles_samePlan (env.jobSteps job) shared _)
          exact ⟨same, fun _ => next⟩

/-- An expansion that does not throw ends with the answer that nothing is left. -/
theorem expandAll_finished (calls : Nat)
    (enough : list.planListings.listingJobs.length < list.planListings.nextJob + calls)
    (through : (expandAll calls shared list).1 = none) :
    SameListing list (expandAll calls shared list).2.2 ∧
      ((expandAll calls shared list).2.2.expandNextPath (expandAll calls shared list).2.1).1 = .ok false := by
  induction calls generalizing shared list with
  | zero => exact ⟨⟨rfl, rfl⟩, expandNextPath_exhausted (Nat.le_of_lt enough)⟩
  | succ calls ih =>
      obtain ⟨same, counted⟩ := expandNextPath_sameListing partitioned shared list
      have finished := @expandNextPath_finished env shared list
      have ready : list.planListings.planned = true := planListings_planned partitioned
      have planned := planListings_of_planned ready
      rw [expandAll] at through ⊢
      match list.expandNextPath shared, through, same, counted, finished with
      | (.ok false, later, other), _, same, _, finished =>
          obtain ⟨unchanged, ran⟩ := finished rfl
          refine ⟨same, expandNextPath_exhausted ?_⟩
          rw [unchanged, planned]
          exact ran
      | (.ok true, later, other), through, same, counted, _ =>
          have less := counted rfl
          obtain ⟨rest, answer⟩ := @ih later other (by rw [same.jobs, less]; omega) through
          exact ⟨same.trans rest, answer⟩

theorem expandFully_finished (through : (expandFully shared list).1 = none) :
    SameListing list (expandFully shared list).2.2 ∧
      ((expandFully shared list).2.2.expandNextPath (expandFully shared list).2.1).1 = .ok false :=
  expandAll_finished partitioned _ (by omega) through

end Exhaustion

end HiveMultiFileList

namespace HiveScanState

variable {env : HiveListing} {trace more : Trace env} {state later : HiveScanState env}

/-- A list with no job left holds exactly the files of the partitions it reads. -/
theorem exact_of_finished {shared : FilePartitions env} {list : HiveMultiFileList env} (owned : Owned shared)
    (sound : list.Sound shared) (filled : list.Expanded) (planned : list.planned = true)
    (finished : list.listingJobs.length ≤ list.nextJob) (separately : ∀ job ∈ list.listingJobs, job.root = false) :
    list.Exact shared := by
  have spread : (list.listingJobs.flatMap (·.partitions)).Perm list.indexes :=
    sound.planned planned ▸ plan_partitions list.indexes
  have all : list.listingJobs.take list.nextJob = list.listingJobs := List.take_of_length_le finished
  have passed := filled.passed
  have listed := filled.listed
  simp only [all] at passed listed
  have steps : ∀ job ∈ list.listingJobs, env.jobSteps job = env.partitionSteps job.partitions := by
    intro job member
    simp [jobSteps, separately job member]
  -- a partition read has its job, and none of the job's steps was refused
  have attributed : ∀ index ∈ list.indexes, ∀ path, env.ReadAs index path →
      env.owningPartition path 0 = some index ∧ path ∈ list.listedFiles := by
    intro index read path readAs
    obtain ⟨job, member, inJob⟩ := List.mem_flatMap.mp (spread.mem_iff.mpr read)
    have through := passed job member
    rw [steps job member] at through
    obtain ⟨owner, file, added, same⟩ := owner_of_passed inJob through readAs
    rw [← steps job member] at added
    exact ⟨owner, (listed path).mpr ⟨job, member, file, index, added, same⟩⟩
  refine ⟨sound.wellFormed.distinct, fun path => ?_, fun index read path readAs => ?_⟩
  · constructor
    · intro inList
      obtain ⟨job, member, file, index, added, rfl⟩ := (listed path).mp ((sound.wellFormed.listed path).mpr inList)
      rw [steps job member] at added
      obtain ⟨inJob, listedAt, owner, -⟩ := partitionSteps_added.mp added
      have read := spread.mem_iff.mp (List.mem_flatMap.mpr ⟨job, member, inJob⟩)
      exact ⟨index, read, (owningPartition_eq_some.mp owner).1, file, listedAt, rfl⟩
    · intro read
      obtain ⟨index, read, readAs⟩ := read
      exact (sound.wellFormed.listed path).mp (attributed index read path readAs).2
  · obtain ⟨owner, inList⟩ := attributed index read path readAs
    obtain ⟨known, found⟩ := sound.known path inList
    obtain rfl : known = index := Option.some.inj ((owned path known found).symm.trans owner)
    exact found

/-- What is kept of a list, once `ExpandNextPath` answers that nothing is left. -/
theorem exact_of_kept (partitioned : env.scan.partitionKeys ≠ []) (kept : Kept trace state)
    {position : Nat} {list : HiveMultiFileList env} (here : state.lists[position]? = some list)
    (unfailed : Unfailed trace position) (separately : ∀ job ∈ list.planListings.listingJobs, job.root = false)
    (finished : (list.expandNextPath state.filePartitions).1 = .ok false) : list.Exact state.filePartitions := by
  have sound := kept.sound list (List.mem_of_getElem? here)
  have exact := exact_of_finished kept.owned (sound_planListings partitioned sound)
    (expanded_planListings partitioned sound (kept.expanded position list here unfailed))
    (planListings_planned partitioned) (expandNextPath_finished finished).2 separately
  obtain ⟨indexes, files⟩ := planListings_keeps list
  exact ⟨files ▸ exact.once, indexes ▸ files ▸ exact.files, indexes ▸ exact.attributed⟩

/-- Runs one after the other are one run. -/
theorem Run.trans {first : HiveScanState env} (earlier : Run first trace state) (goesOn : Run state more later) :
    Run first (trace ++ more) later := by
  induction goesOn with
  | start => simpa using earlier
  | step operation _ ih =>
      rw [← List.append_assoc]
      exact .step operation ih

/-- Expanding a list again and again is a run, in which no listing threw if the
expansion did not. -/
theorem expandAll_run {position : Nat} (calls : Nat) {list : HiveMultiFileList env}
    (here : state.lists[position]? = some list) :
    ∃ more later, Run state more later ∧ later.filePartitions = (expandAll calls state.filePartitions list).2.1 ∧
      later.lists[position]? = some (expandAll calls state.filePartitions list).2.2 ∧
      ((expandAll calls state.filePartitions list).1 = none → Unfailed more position) := by
  induction calls generalizing state list with
  | zero => exact ⟨[], state, .start, rfl, here, fun _ _ => List.not_mem_nil⟩
  | succ calls ih =>
      have inside := (List.getElem?_eq_some_iff.mp here).1
      have first : Run state _ _ := .step (.expandNextPath position) .start
      simp only [step, here] at first
      rw [expandAll]
      match list.expandNextPath state.filePartitions, first with
      | (.error exception, shared, next), first =>
          exact ⟨_, _, first, rfl, by simp [inside], fun through => by cases through⟩
      | (.ok false, shared, next), first =>
          exact ⟨_, _, first, rfl, by simp [inside], fun _ => by simp [Unfailed]⟩
      | (.ok true, shared, next), first =>
          obtain ⟨more, later, run, filePartitions, there, unfailed⟩ :=
            @ih ⟨shared, state.lists.set position next⟩ next (by simp [inside])
          refine ⟨_, later, first.trans run, filePartitions, there, fun through exception member => ?_⟩
          refine unfailed through exception ?_
          simpa using member

/-- In every run of the lists of a scan no path is ever attributed to two partitions,
and the partitions each list reads are spread over its jobs, each in one. A list of
separately listed partitions none of whose listings threw holds, once
`ExpandNextPath` answers that nothing is left, exactly the files of these partitions,
each path once and under its own partition; and so does each list expanded to that
answer from any state of the run. -/
theorem attribution_exact (partitioned : env.scan.partitionKeys ≠ []) {partitionIndexes : Option (List env.Index)}
    (nodup : ∀ indexes, partitionIndexes = some indexes → indexes.Nodup)
    (run : Run (start partitionIndexes) trace state) :
    (∀ more later, Run state more later → ∀ path index other, state.filePartitions.lookup path = some index →
        later.filePartitions.lookup path = some other → index = other) ∧
      ∀ position list, state.lists[position]? = some list →
        list.indexes.Nodup ∧ (list.planListings.listingJobs.flatMap (·.partitions)).Perm list.indexes ∧
        (Unfailed trace position → (∀ job ∈ list.planListings.listingJobs, job.root = false) →
          ((list.expandNextPath state.filePartitions).1 = .ok false → list.Exact state.filePartitions) ∧
          ((expandFully state.filePartitions list).1 = none →
            (expandFully state.filePartitions list).2.2.indexes = list.indexes ∧
            (expandFully state.filePartitions list).2.2.Exact (expandFully state.filePartitions list).2.1)) := by
  have kept := run_kept partitioned nodup run
  constructor
  · intro more later goesOn path index other early late
    obtain ⟨whole, after⟩ := run_owned partitioned kept goesOn
    exact Option.some.inj ((kept.owned path index early).symm.trans (after.owned path other late))
  · intro position list here
    have sound := kept.sound list (List.mem_of_getElem? here)
    refine ⟨sound.nodup, planListings_partitions partitioned sound, fun unfailed separately => ⟨?_, ?_⟩⟩
    · exact exact_of_kept partitioned kept here unfailed separately
    · intro through
      obtain ⟨more, later, goesOn, filePartitions, there, passed⟩ :=
        expandAll_run (list.planListings.listingJobs.length + 1) here
      obtain ⟨plan, finished⟩ := expandFully_finished partitioned through
      refine ⟨plan.indexes, ?_⟩
      rw [expandFully] at through plan finished ⊢
      rw [← filePartitions] at finished ⊢
      refine exact_of_kept partitioned (run_kept partitioned nodup (run.trans goesOn)) there ?_ ?_ finished
      · intro exception member
        cases List.mem_append.mp member with
        | inl before => exact unfailed exception before
        | inr after => exact passed through exception after
      · rw [plan.jobs]
        exact separately

/-- A partition registered inside another one, in another spelling of the scheme. -/
def nestedPartitions : HiveListing where
  scan := { tableName := "events", rootLocation := "s3://bucket/events", partitionKeys := ["day".toList] }
  partitions := [⟨["1".toList], "s3://bucket/events/day=1/", [], [], ∅, []⟩,
    ⟨["2".toList], "s3a://bucket/events/day=1/late", [], [], ∅, []⟩]
  fs := .ofObjects [⟨"s3://bucket/events/day=1/a.parquet", some 10⟩,
    ⟨"s3://bucket/events/day=1/late/b.parquet", some 20⟩, ⟨"s3://bucket/events/day=1/_SUCCESS", some 1⟩]
  db := ⟨fun _ => none⟩
  threads := 2

def outerPartition : nestedPartitions.Index := ⟨0, by decide⟩

def innerPartition : nestedPartitions.Index := ⟨1, by decide⟩

/-- The list of both partitions, expanded. -/
def nestedList : HiveMultiFileList nestedPartitions where
  planned := true
  listingJobs := [⟨false, [outerPartition, innerPartition]⟩]
  nextJob := 1
  listedFiles := ["s3a://bucket/events/day=1/late/b.parquet", "s3://bucket/events/day=1/a.parquet"]
  expandedFiles := [⟨"s3://bucket/events/day=1/a.parquet", some 10⟩,
    ⟨"s3a://bucket/events/day=1/late/b.parquet", some 20⟩]

/-- The list a scan of both partitions is bound with. -/
def boundList : HiveMultiFileList nestedPartitions where

/-- The scan, sampled through its list, which is then copied. -/
def nestedScan : HiveScanState nestedPartitions :=
  (((start none).step (.listSampleDirectory 0 2)).2.step (.copy 0)).2

theorem attribution_exact_nested :
    (expandFully nestedScan.filePartitions boundList).2.2 = nestedList ∧
      (nestedList.listingJobs.flatMap (·.partitions)).Perm nestedList.indexes ∧
      nestedList.Exact (expandFully nestedScan.filePartitions boundList).2.1 := by
  have run : Run (start none) _ nestedScan :=
    (Run.start.step (.listSampleDirectory 0 2)).step (.copy 0)
  have there : nestedScan.lists[1]? = some boundList := by decide +kernel
  have expanded : (expandFully nestedScan.filePartitions boundList).2.2 = nestedList := by decide +kernel
  have through : (expandFully nestedScan.filePartitions boundList).1 = none := by decide +kernel
  have separately : ∀ job ∈ boundList.planListings.listingJobs, job.root = false := by decide +kernel
  obtain ⟨-, lists⟩ := attribution_exact (by decide +kernel) (by simp) run
  obtain ⟨-, spread, exact⟩ := lists 1 boundList there
  obtain ⟨-, files⟩ := (exact (by simp [Unfailed]) separately).2 through
  rw [expanded] at files
  exact ⟨expanded, spread, files⟩

end HiveScanState

end DuckGlue
