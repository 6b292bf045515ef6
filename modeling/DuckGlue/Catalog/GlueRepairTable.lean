import DuckGlue.Catalog.GluePartitionFunctions
import DuckGlue.Lib.OrderedMap
import DuckGlue.Planning.FileSystem

/-! # glue_repair_table

Registers the `key=value` directories below the location of a table that hold data files
and are not registered. What is registered is compared as it is written, with trailing
slashes dropped.
-/

namespace DuckGlue

open StringUtil GluePartitionFunctions GlueHiveInsert OrderedMap Fallible

/-- `GlueRepairTableBindData` -/
structure GlueRepairTable where
  table : GlueTableInfo
  keyTypes : List LogicalType
  root : Text
  partitioned : table.partitionKeys ≠ []
  typed : keyTypes.length = table.partitionKeys.length
  rooted : root ≠ [] ∧ root.getLast? ≠ some '/'

def resolveRepaired (table : GlueTableInfo) : Except Exception Unit := resolveGlueTable "glue_repair_table" true table

def keyTypesOf (table : GlueTableInfo) : Except Exception (List LogicalType) :=
  table.partitionKeys.mapM fun key => GlueTypes.toLogicalType key.type

theorem partitioned_of_resolved {table : GlueTableInfo} (resolved : resolveRepaired table = .ok ()) :
    table.partitionKeys ≠ [] :=
  (resolveGlueTable_ok.mp resolved).2.2 rfl

theorem keyTypesOf_length {table : GlueTableInfo} {types : List LogicalType} (read : keyTypesOf table = .ok types) :
    types.length = table.partitionKeys.length :=
  (mapM_eq_ok.mp read).length_eq.symm

/-- `GlueRepairTableBind`; `transaction` is what `ThrowIfInExplicitTransaction` says. -/
def glueRepairTableBind (transaction : Except Exception Unit) (table : GlueTableInfo) :
    Except Exception GlueRepairTable :=
  match resolved : resolveRepaired table with
  | .error refused => .error refused
  | .ok () => do
      transaction
      if rooted : rtrim table.location '/' = [] then
        throw (.invalidInput ("Table '" ++ targetName table ++ "' has no location in Glue"))
      else
        match read : keyTypesOf table with
        | .error unread => .error unread
        | .ok keyTypes =>
            return { table, keyTypes, root := rtrim table.location '/', partitioned := partitioned_of_resolved resolved,
                     typed := keyTypesOf_length read, rooted := ⟨rooted, Segments.trimEnd_last _⟩ }

/-- The order of the keys of `map<vector<string>, string>`. -/
def valuesBefore (a b : List Text) : Bool := List.lex a b fun x y => List.lex x y fun c d => decide (c < d)

/-- The directories looked at, and the location of each value list found. -/
structure RepairState where
  seenDirectories : List Text := []
  discovered : List (List Text × Text) := []

namespace GlueRepairTable

variable {Value : Type} (unescape : Text → Option Text) (casts : KeyCasts Value) (data : GlueRepairTable)

/-- The value of a key that a directory has; `unescape` gives nothing for what is not UTF-8
once unescaped. -/
def readComponent (key : GlueColumn) (type : LogicalType) (component : Text) : Option Text :=
  if '=' ∈ component then do
    let name ← unescape (component.takeWhile (· ≠ '='))
    if !ciEquals name key.name then none
    else do
      let value ← unescape ((component.dropWhile (· ≠ '=')).drop 1)
      match GlueTypes.partitionValue casts.toValueCasts key.name value type with
      | .error _ => none
      | .ok none => some value
      -- stored as glue_add_partition stores it: year=07 -> '7'
      | .ok (some typed) => some (casts.toText typed)
  else none

/-- The values of the keys and the directories that have them. -/
def readComponents : List (GlueColumn × LogicalType) → List Text → Option (List Text × List Text)
  | [], _ => some ([], [])
  | _ :: _, [] => none
  | (key, type) :: keys, component :: components =>
      match readComponent unescape casts key type component, readComponents keys components with
      | some value, some (values, directories) => some (value :: values, component :: directories)
      | _, _ => none

/-- `ReadDiscoveredPartition` -/
def readDiscoveredPartition (relativeDirectory : Text) : Option (List Text × Text) := do
  let (values, directories) ← readComponents unescape casts (data.table.partitionKeys.zip data.keyTypes)
    (split relativeDirectory '/')
  return (values, join directories "/")

def rootPrefix : Text := data.root ++ ['/']

/-- The directory of a file below the root. -/
def fileDirectory (file : OpenFileInfo) : Option Text :=
  if !isDataFile file data.rootPrefix then none
  else if '/' ∉ file.path ∨ (directoryOf file.path).length < data.rootPrefix.length then none
  else some (directoryOf file.path)

variable (registered : List GluePartitionInfo)

/-- A directory as a partition to add. -/
def candidate (directory : Text) : Option (List Text × Text) := do
  let (values, partitionDirectory) ← data.readDiscoveredPartition unescape casts (directory.drop data.rootPrefix.length)
  let location := data.rootPrefix ++ partitionDirectory
  if values ∈ registered.map (·.values) ∨ location ∈ registered.map (fun partition => rtrim partition.location '/') then
    none
  else some (values, location)

/-- The callback for a listed file. -/
def discover (state : RepairState) (file : OpenFileInfo) : RepairState :=
  match data.fileDirectory file with
  | none => state
  | some directory =>
      if directory ∈ state.seenDirectories then state
      else
        let state := { state with seenDirectories := directory :: state.seenDirectories }
        match data.candidate unescape casts registered directory with
        | none => state
        | some entry => { state with discovered := emplace valuesBefore state.discovered entry }

/-- The partitions found; `ListFilesBelow` calls back for the files of the tree in some order. -/
def added (fs : FileSystem) : List GluePartitionInput :=
  ((fs.list data.root).foldl (data.discover unescape casts registered) {}).discovered.map fun entry => ⟨entry.1, entry.2⟩

/-- `GlueRepairTableApply`: what it added, and what is registered then. -/
def apply (writable : Except Exception Unit) (fs : FileSystem) :
    Except Exception (List GluePartitionInput × List GluePartitionInfo) := do
  writable
  let added := data.added unescape casts registered fs
  return (added, (batchCreatePartitions data.table added registered).1)

/-! ## The directories found -/

section Found

variable {unescape casts data registered} {keys : List (GlueColumn × LogicalType)} {components directories : List Text}
  {values : List Text} {relative directory partitionDirectory : Text}

/-- The components read are the first ones, and are read to the same values alone. -/
theorem readComponents_spec (read : readComponents unescape casts keys components = some (values, directories)) :
    directories.length = keys.length ∧ (∀ component ∈ directories, component ∈ components ∧ '=' ∈ component) ∧
      readComponents unescape casts keys directories = some (values, directories) := by
  induction keys generalizing components values directories with
  | nil =>
      rw [readComponents] at read
      cases read
      exact ⟨rfl, by simp, rfl⟩
  | cons key keys ih =>
      obtain ⟨key, type⟩ := key
      cases components with
      | nil => cases read
      | cons component components =>
          rw [readComponents] at read
          split at read
          · rename_i value laterValues later here rest
            cases read
            have equals : '=' ∈ component := by
              by_contra absent
              rw [readComponent, if_neg absent] at here
              cases here
            obtain ⟨length, members, again⟩ := ih rest
            refine ⟨congrArg (· + 1) length, ?_, ?_⟩
            · intro other member
              cases member with
              | head => exact ⟨List.mem_cons_self, equals⟩
              | tail _ member => exact ⟨List.mem_cons_of_mem _ (members other member).1, (members other member).2⟩
            · rw [readComponents, here, again]
          · cases read

/-- A directory as it is registered below the root. -/
structure PartitionDirectory (unescape : Text → Option Text) (casts : KeyCasts Value) (data : GlueRepairTable)
    (values : List Text) (partitionDirectory : Text) : Prop where
  nonempty : partitionDirectory ≠ []
  opens : partitionDirectory.head? ≠ some '/'
  closes : partitionDirectory.getLast? ≠ some '/'
  read : data.readDiscoveredPartition unescape casts partitionDirectory = some (values, partitionDirectory)

theorem readDiscoveredPartition_spec
    (read : data.readDiscoveredPartition unescape casts relative = some (values, partitionDirectory)) :
    PartitionDirectory unescape casts data values partitionDirectory := by
  obtain ⟨⟨_, directories⟩, found, same⟩ := Option.bind_eq_some_iff.mp read
  cases same
  obtain ⟨length, members, again⟩ := readComponents_spec found
  have plain : ∀ part ∈ directories, part ≠ [] ∧ '/' ∉ part := by
    intro part member
    obtain ⟨inside, equals⟩ := members part member
    exact ⟨List.ne_nil_of_mem equals, Segments.plain_of_mem_split inside⟩
  have some_ : directories ≠ [] := by
    intro empty
    rw [empty, List.length_nil, List.length_zip, data.typed, Nat.min_self] at length
    exact data.partitioned (List.length_eq_zero_iff.mp length.symm)
  refine ⟨Segments.intercalate_ne_nil plain some_, Segments.intercalate_head plain, Segments.intercalate_last plain, ?_⟩
  have back : split (join directories "/") '/' = directories := Segments.split_intercalate plain
  rw [readDiscoveredPartition, back, again]
  rfl

/-- A candidate is registered by no values and no location of its spelling. -/
structure Candidate (unescape : Text → Option Text) (casts : KeyCasts Value) (data : GlueRepairTable)
    (registered : List GluePartitionInfo) (values : List Text) (location : Text) : Prop where
  directory : ∃ partitionDirectory, location = data.root ++ '/' :: partitionDirectory ∧
    PartitionDirectory unescape casts data values partitionDirectory
  values : ∀ partition ∈ registered, partition.values ≠ values
  location : ∀ partition ∈ registered, rtrim partition.location '/' ≠ location

theorem candidate_spec {location : Text}
    (found : data.candidate unescape casts registered directory = some (values, location)) :
    Candidate unescape casts data registered values location := by
  obtain ⟨⟨_, partitionDirectory⟩, read, found⟩ := Option.bind_eq_some_iff.mp found
  dsimp only at found
  split_ifs at found with known
  cases found
  obtain ⟨newValues, newLocation⟩ := not_or.mp known
  constructor
  · refine ⟨partitionDirectory, ?_, readDiscoveredPartition_spec read⟩
    rw [rootPrefix, List.append_assoc, List.singleton_append]
  · intro partition member same
    exact newValues (List.mem_map.mpr ⟨partition, member, same⟩)
  · intro partition member same
    exact newLocation (List.mem_map.mpr ⟨partition, member, same⟩)

/-- A directory that could be registered, unless its values or location are. -/
theorem candidate_eq_none {discovered : List Text × Text}
    (read : data.readDiscoveredPartition unescape casts (directory.drop data.rootPrefix.length) = some discovered)
    (skipped : data.candidate unescape casts registered directory = none) :
    discovered.1 ∈ registered.map (·.values) ∨
      data.rootPrefix ++ discovered.2 ∈ registered.map (fun partition => rtrim partition.location '/') := by
  by_contra unknown
  unfold candidate at skipped
  rw [read] at skipped
  simp only [Option.bind_eq_bind, Option.bind_some, if_neg unknown, reduceCtorEq] at skipped

end Found

/-! ## The partitions added -/

section Added

/-- The directories of the files that could be registered, in the order of the listing. -/
def candidates (files : List OpenFileInfo) : List (List Text × Text) :=
  files.filterMap fun file => (data.fileDirectory file).bind (data.candidate unescape casts registered)

variable {unescape casts data registered}

/-- What is discovered from the files so far; a directory seen has been looked at. -/
structure Discovering (unescape : Text → Option Text) (casts : KeyCasts Value) (data : GlueRepairTable)
    (registered : List GluePartitionInfo) (given : List (List Text × Text)) (state : RepairState) : Prop where
  filled : Filled given state.discovered
  seen : ∀ directory ∈ state.seenDirectories, ∀ entry,
    data.candidate unescape casts registered directory = some entry → entry.1 ∈ state.discovered.map (·.1)

theorem discover_discovering {given : List (List Text × Text)} {state : RepairState}
    (discovering : Discovering unescape casts data registered given state) (file : OpenFileInfo) :
    Discovering unescape casts data registered (given ++ data.candidates unescape casts registered [file])
      (data.discover unescape casts registered state file) := by
  unfold discover candidates
  cases found : data.fileDirectory file with
  | none => simpa [found] using discovering
  | some directory =>
      cases usable : data.candidate unescape casts registered directory with
      | none =>
          simp only [List.filterMap_cons, found, Option.bind_some, usable, List.filterMap_nil, List.append_nil]
          split_ifs
          · exact discovering
          · refine ⟨discovering.filled, ?_⟩
            intro other member entry here
            cases member with
            | head =>
                rw [usable] at here
                cases here
            | tail _ member => exact discovering.seen other member entry here
      | some entry =>
          simp only [List.filterMap_cons, found, Option.bind_some, usable, List.filterMap_nil]
          split_ifs with seen
          · exact ⟨discovering.filled.again (discovering.seen directory seen entry usable), discovering.seen⟩
          · have filled : Filled (given ++ [entry]) (emplace valuesBefore state.discovered entry) :=
              discovering.filled.emplace entry
            refine ⟨filled, ?_⟩
            intro other member another here
            cases member with
            | head =>
                rw [usable] at here
                cases here
                exact filled.key_iff.mpr (firstValue_of_mem (by simp))
            | tail _ member =>
                apply filled.key_iff.mpr
                obtain ⟨value, before⟩ := discovering.filled.key_iff.mp (discovering.seen other member another here)
                exact ⟨value, by rw [firstValue_append, before]; rfl⟩

theorem foldl_discovering (files : List OpenFileInfo) {given : List (List Text × Text)} {state : RepairState}
    (discovering : Discovering unescape casts data registered given state) :
    Discovering unescape casts data registered (given ++ data.candidates unescape casts registered files)
      (files.foldl (data.discover unescape casts registered) state) := by
  induction files generalizing given state with
  | nil => simpa [candidates] using discovering
  | cons file files ih =>
      have rest := ih (discover_discovering discovering file)
      rwa [List.append_assoc, candidates, candidates, ← List.filterMap_append] at rest

/-- Added is the first directory of each value list. -/
theorem added_filled (fs : FileSystem) :
    Filled (data.candidates unescape casts registered (fs.list data.root))
      ((data.added unescape casts registered fs).map fun partition => (partition.values, partition.location)) := by
  have start : Discovering unescape casts data registered [] {} := ⟨filled_nil, by simp⟩
  have found := (foldl_discovering (fs.list data.root) start).filled
  have same : ((data.added unescape casts registered fs).map fun partition => (partition.values, partition.location)) =
      ((fs.list data.root).foldl (data.discover unescape casts registered) {}).discovered := by
    rw [added, List.map_map]
    exact List.map_id _
  rw [same]
  exact found

theorem mem_added {fs : FileSystem} {partition : GluePartitionInput} :
    partition ∈ data.added unescape casts registered fs ↔
      firstValue (data.candidates unescape casts registered (fs.list data.root)) partition.values =
        some partition.location := by
  rw [← (added_filled fs).first]
  constructor
  · intro member
    exact List.mem_map.mpr ⟨partition, member, rfl⟩
  · intro member
    obtain ⟨other, inside, same⟩ := List.mem_map.mp member
    obtain ⟨values, location⟩ := Prod.mk.inj same
    cases other
    cases partition
    cases values
    cases location
    exact inside

theorem added_candidate {fs : FileSystem} {partition : GluePartitionInput}
    (member : partition ∈ data.added unescape casts registered fs) :
    Candidate unescape casts data registered partition.values partition.location := by
  obtain ⟨file, _, found⟩ := List.mem_filterMap.mp (mem_of_firstValue (mem_added.mp member))
  obtain ⟨directory, _, usable⟩ := Option.bind_eq_some_iff.mp found
  exact candidate_spec usable

theorem comparableLocation_candidate {values : List Text} {location : Text}
    (candidate : Candidate unescape casts data registered values location) :
    ∃ partitionDirectory, comparableLocation location = comparableLocation data.root ++ '/' :: partitionDirectory ∧
      PartitionDirectory unescape casts data values partitionDirectory := by
  obtain ⟨partitionDirectory, rfl, at_⟩ := candidate.directory
  exact ⟨partitionDirectory, comparableLocation_below data.rooted.2 at_.nonempty at_.opens at_.closes, at_⟩

/-- A directory is read to one value list, so value lists that differ are at other directories. -/
theorem values_of_comparableLocation {a b : GluePartitionInput}
    (first : Candidate unescape casts data registered a.values a.location)
    (second : Candidate unescape casts data registered b.values b.location)
    (same : comparableLocation a.location = comparableLocation b.location) : a.values = b.values := by
  obtain ⟨one, firstAt, firstDirectory⟩ := comparableLocation_candidate first
  obtain ⟨other, secondAt, secondDirectory⟩ := comparableLocation_candidate second
  rw [firstAt, secondAt, List.append_cancel_left_eq, List.cons.injEq] at same
  have read := firstDirectory.read
  rw [same.2, secondDirectory.read] at read
  exact (Prod.mk.inj (Option.some.inj read)).1.symm

/-- Glue creates all of what is new to it. -/
theorem batchCreatePartitions_new {table : GlueTableInfo} {new : List GluePartitionInput}
    {registered : List GluePartitionInfo} (fresh : ∀ input ∈ new, ∀ partition ∈ registered, partition.values ≠ input.values)
    (distinct : (new.map (·.values)).Nodup) :
    (batchCreatePartitions table new registered).1 = registered ++ new.map (created table) := by
  have all : (new.filter fun input => !registered.any fun existing => decide (existing.values = input.values)) = new := by
    rw [List.filter_eq_self]
    intro input member
    simpa using fresh input member
  rw [batchCreatePartitions_eq distinct, all]

theorem added_values_nodup (fs : FileSystem) : ((data.added unescape casts registered fs).map (·.values)).Nodup := by
  have once := (@added_filled _ unescape casts data registered fs).once
  rwa [List.map_map] at once

/-- What is registered after a run. -/
theorem registered_after (fs : FileSystem) :
    (batchCreatePartitions data.table (data.added unescape casts registered fs) registered).1 =
      registered ++ (data.added unescape casts registered fs).map (created data.table) :=
  batchCreatePartitions_new (fun _ member => (added_candidate member).values) (added_values_nodup fs)

/-- A second run finds the directories registered, whichever order they are listed in. -/
theorem added_again (fs other : FileSystem) (unchanged : other.objects = fs.objects) :
    data.added unescape casts
      (batchCreatePartitions data.table (data.added unescape casts registered fs) registered).1 other = [] := by
  rw [registered_after]
  apply List.eq_nil_iff_forall_not_mem.mpr
  intro partition member
  obtain ⟨file, listed, found⟩ := List.mem_filterMap.mp (mem_of_firstValue (mem_added.mp member))
  obtain ⟨directory, below, usable⟩ := Option.bind_eq_some_iff.mp found
  obtain ⟨discovered, read, _⟩ := Option.bind_eq_some_iff.mp usable
  have known : discovered.1 ∉ (registered ++ (data.added unescape casts registered fs).map (created data.table)).map (·.values) ∧
      data.rootPrefix ++ discovered.2 ∉
        (registered ++ (data.added unescape casts registered fs).map (created data.table)).map
          (fun partition => rtrim partition.location '/') := by
    apply not_or.mp
    intro either
    unfold candidate at usable
    rw [read] at usable
    simp only [Option.bind_eq_bind, Option.bind_some, if_pos either, reduceCtorEq] at usable
  rw [List.map_append, List.map_append, List.mem_append, List.mem_append, not_or, not_or] at known
  cases first : data.candidate unescape casts registered directory with
  | none => exact (candidate_eq_none read first).elim known.1.1 known.2.1
  | some entry =>
      have listed : file ∈ fs.list data.root := by
        rw [FileSystem.mem_list, unchanged] at listed
        exact fs.mem_list.mpr listed
      have member : entry ∈ data.candidates unescape casts registered (fs.list data.root) :=
        List.mem_filterMap.mpr ⟨file, listed, by rw [below]; exact first⟩
      obtain ⟨location, wins⟩ := firstValue_of_mem member
      have created_ : ⟨entry.1, location⟩ ∈ data.added unescape casts registered fs := mem_added.mpr wins
      have values : discovered.1 = entry.1 := by
        obtain ⟨other, reread, chosen⟩ := Option.bind_eq_some_iff.mp first
        rw [read] at reread
        cases reread
        dsimp only at chosen
        split_ifs at chosen
        cases chosen
        rfl
      apply known.1.2
      rw [List.map_map]
      exact List.mem_map.mpr ⟨_, created_, values.symm⟩

variable (unescape casts data registered)

/-- glue_repair_table makes no two partitions share their values or directory. -/
structure AddsNew (fs : FileSystem) (added : List GluePartitionInput) (after : List GluePartitionInfo) : Prop where
  values : ∀ partition ∈ added, ∀ old ∈ registered, old.values ≠ partition.values
  locations : ∀ partition ∈ added, ∀ old ∈ registered,
    comparableLocation old.location ≠ comparableLocation partition.location
  apart : added.Pairwise fun a b => a.values ≠ b.values ∧ comparableLocation a.location ≠ comparableLocation b.location
  unshared : (registered.map fun partition => comparableLocation partition.location).Nodup →
    (after.map fun partition => comparableLocation partition.location).Nodup
  again : ∀ other : FileSystem, other.objects = fs.objects → data.added unescape casts after other = []

/-- A listed file below a directory that has these values, and where it would be
registered. -/
def FoundAt (file : OpenFileInfo) (values : List Text) (location : Text) : Prop :=
  ∃ directory partitionDirectory, data.fileDirectory file = some directory ∧
    data.readDiscoveredPartition unescape casts (directory.drop data.rootPrefix.length) =
      some (values, partitionDirectory) ∧
    location = data.rootPrefix ++ partitionDirectory

/-- Registered as the root spells it. -/
def AsWritten (location : Text) : Prop := ∃ partition ∈ registered, rtrim partition.location '/' = location

/-- A registered location at a directory found has no other spelling of the scheme,
unless the values of the directory are registered too, the location is registered as the
root spells it as well, or a file listed earlier is below another directory of the same
values which is not. -/
def SpelledAlike (files : List OpenFileInfo) : Prop :=
  ∀ before file after values location, files = before ++ file :: after →
    FoundAt unescape casts data file values location →
    (∃ partition ∈ registered, comparableLocation partition.location = comparableLocation location) →
    (∃ partition ∈ registered, partition.values = values) ∨ AsWritten registered location ∨
      ∃ earlier ∈ before, ∃ other, FoundAt unescape casts data earlier values other ∧ ¬AsWritten registered other

variable {unescape casts data registered}

/-- A file is a candidate where it is found at new values and a location that is not
registered as written. -/
theorem candidateOf_iff {file : OpenFileInfo} {values : List Text} {location : Text} :
    (data.fileDirectory file).bind (data.candidate unescape casts registered) = some (values, location) ↔
      FoundAt unescape casts data file values location ∧ (∀ partition ∈ registered, partition.values ≠ values) ∧
        ¬AsWritten registered location := by
  constructor
  · intro found
    obtain ⟨directory, below, usable⟩ := Option.bind_eq_some_iff.mp found
    have new := candidate_spec usable
    obtain ⟨read, discovered, chosen⟩ := Option.bind_eq_some_iff.mp usable
    dsimp only at chosen
    split_ifs at chosen
    cases chosen
    refine ⟨⟨directory, _, below, discovered, rfl⟩, new.values, fun written => ?_⟩
    obtain ⟨partition, member, same⟩ := written
    exact new.location partition member same
  · intro found
    obtain ⟨⟨directory, partitionDirectory, below, read, rfl⟩, new, written⟩ := found
    have unknown : ¬(values ∈ registered.map (·.values) ∨
        data.rootPrefix ++ partitionDirectory ∈ registered.map (fun partition => rtrim partition.location '/')) := by
      intro known
      cases known with
      | inl member =>
          obtain ⟨partition, there, same⟩ := List.mem_map.mp member
          exact new partition there same
      | inr member => exact written (List.mem_map.mp member)
    rw [below, Option.bind_some, candidate, read]
    exact if_neg unknown

/-- New values get a location that is registered in another spelling just where the
spellings differ. -/
theorem spelledAlike_iff {files : List OpenFileInfo} :
    SpelledAlike unescape casts data registered files ↔
      ∀ values location, firstValue (data.candidates unescape casts registered files) values = some location →
        ∀ partition ∈ registered, comparableLocation partition.location ≠ comparableLocation location := by
  constructor
  · intro alike values location first partition member same
    obtain ⟨before, file, after, split, here, unread⟩ := firstValue_filterMap.mp first
    obtain ⟨found, new, unwritten⟩ := candidateOf_iff.mp here
    obtain known | written | ⟨earlier, inside, other, foundEarlier, unwrittenEarlier⟩ :=
      alike before file after values location split found ⟨partition, member, same⟩
    · obtain ⟨registered, there, equal⟩ := known
      exact new registered there equal
    · exact unwritten written
    · exact unread earlier inside other (candidateOf_iff.mpr ⟨foundEarlier, new, unwrittenEarlier⟩)
  · intro spelled before file after values location split found respelled
    by_contra forgotten
    rw [not_or, not_or] at forgotten
    obtain ⟨new, unwritten, first⟩ := forgotten
    have newValues : ∀ partition ∈ registered, partition.values ≠ values :=
      fun partition member same => new ⟨partition, member, same⟩
    obtain ⟨partition, member, same⟩ := respelled
    refine spelled values location (firstValue_filterMap.mpr ⟨before, file, after, split, ?_, ?_⟩) partition member same
    · exact candidateOf_iff.mpr ⟨found, newValues, unwritten⟩
    · intro earlier inside other taken
      obtain ⟨foundEarlier, -, unwrittenEarlier⟩ := candidateOf_iff.mp taken
      exact first ⟨earlier, inside, other, foundEarlier, unwrittenEarlier⟩

variable (unescape casts data registered)

/-- A run makes no partitions share a directory just where the registered locations it
finds the directories of are spelled as the root is. -/
theorem glueRepairTable_addsNew_iff (fs : FileSystem) (added : List GluePartitionInput) (after : List GluePartitionInfo)
    (applied : data.apply unescape casts registered (.ok ()) fs = .ok (added, after)) :
    AddsNew unescape casts data registered fs added after ↔
      SpelledAlike unescape casts data registered (fs.list data.root) := by
  rw [spelledAlike_iff]
  cases applied
  constructor
  · intro new values location first
    have chosen : ⟨values, location⟩ ∈ data.added unescape casts registered fs := mem_added.mpr first
    exact new.locations _ chosen
  · intro spelled
    have locations : ∀ partition ∈ data.added unescape casts registered fs, ∀ old ∈ registered,
        comparableLocation old.location ≠ comparableLocation partition.location := by
      intro partition member
      exact spelled partition.values partition.location (mem_added.mp member)
    have distinct : (data.added unescape casts registered fs).Pairwise fun a b => a.values ≠ b.values :=
      List.pairwise_map.mp (added_values_nodup fs)
    have apart : (data.added unescape casts registered fs).Pairwise fun a b =>
        a.values ≠ b.values ∧ comparableLocation a.location ≠ comparableLocation b.location := by
      apply distinct.imp_of_mem
      intro a b first second differ
      exact ⟨differ, fun same => differ (values_of_comparableLocation (added_candidate first) (added_candidate second) same)⟩
    constructor
    · exact fun partition member => (added_candidate member).values
    · exact locations
    · exact apart
    · intro unshared
      rw [registered_after, List.map_append, List.map_map, List.nodup_append]
      refine ⟨unshared, List.pairwise_map.mpr (apart.imp And.right), ?_⟩
      intro one first other second
      obtain ⟨old, there, rfl⟩ := List.mem_map.mp first
      obtain ⟨partition, member, rfl⟩ := List.mem_map.mp second
      exact locations partition member old there
    · exact fun other unchanged => added_again fs other unchanged

end Added

section Years

/-- Keys that are strings. -/
def stringKeys : KeyCasts Text where
  ofText := id
  tryCastAs text _ := some text
  typeName _ := "VARCHAR"
  implicitCastCost _ _ := -1
  toText := id
  equals a b := a = b

def years : GlueRepairTable where
  table := { name := "orders", schemaName := "db", location := "s3://bucket/orders/",
             partitionKeys := [{ name := "year", type := "string" }] }
  keyTypes := [.varchar]
  root := "s3://bucket/orders"
  partitioned := by simp
  typed := rfl
  rooted := by decide

def yearFiles : FileSystem := .ofObjects [⟨"s3://bucket/orders/year=7/data.parquet", some 10⟩]

def registeredAt (location : Text) : List GluePartitionInfo := [{ values := ["8"], location }]

/-- A partition renamed from 7 to 8 that keeps its directory, registered as s3a. -/
theorem glueRepairTable_respelled : ¬∀ added after,
    years.apply some stringKeys (registeredAt "s3a://bucket/orders/year=7") (.ok ()) yearFiles = .ok (added, after) →
      AddsNew some stringKeys years (registeredAt "s3a://bucket/orders/year=7") yearFiles added after := by
  intro all
  have new := all _ _ rfl
  exact new.locations ⟨["7"], "s3://bucket/orders/year=7"⟩ (by decide +kernel) _ List.mem_cons_self (by decide +kernel)

theorem glueRepairTable_addsYear : ∃ added after,
    years.apply some stringKeys (registeredAt "s3a://bucket/orders/year=8") (.ok ()) yearFiles = .ok (added, after) ∧
      AddsNew some stringKeys years (registeredAt "s3a://bucket/orders/year=8") yearFiles added after := by
  refine ⟨_, _, rfl, (glueRepairTable_addsNew_iff some stringKeys years _ yearFiles _ _ rfl).mpr ?_⟩
  intro before file after values location split found respelled
  have only : file ∈ yearFiles.list years.root := by
    rw [split]
    exact List.mem_append_right _ List.mem_cons_self
  have listed : yearFiles.list years.root = [⟨"s3://bucket/orders/year=7/data.parquet", some 10⟩] := by decide +kernel
  rw [listed, List.mem_singleton] at only
  subst only
  obtain ⟨directory, partitionDirectory, below, read, rfl⟩ := found
  have at_ : years.fileDirectory ⟨"s3://bucket/orders/year=7/data.parquet", some 10⟩ =
      some ("s3://bucket/orders/year=7" : Text) := by decide +kernel
  cases at_.symm.trans below
  have seven : years.readDiscoveredPartition some stringKeys
      (("s3://bucket/orders/year=7" : Text).drop years.rootPrefix.length) = some ([("7" : Text)], ("year=7" : Text)) := by decide +kernel
  cases seven.symm.trans read
  obtain ⟨partition, member, same⟩ := respelled
  cases List.mem_singleton.mp member
  exact absurd same (by decide +kernel)

end Years

end GlueRepairTable

end DuckGlue
