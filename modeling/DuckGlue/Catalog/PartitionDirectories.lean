import DuckGlue.Catalog.GlueRepairTable
import DuckGlue.Planning.InsertReadsBack

/-! # Default directories are read back

glue_add_partition registers a partition at the `key=value` directories of its values below
the table, unless a location is given. glue_repair_table reads such directories back to the
same values, however deep below them the files are.
-/

namespace DuckGlue

open StringUtil GluePartitionFunctions GlueHiveInsert OrderedMap Fallible

/-- `Unescape` of DuckDB's `HivePartitioning`, nothing where the result is not UTF-8. -/
structure HivePartitioning.Unescapes (hive : HivePartitioning) (unescape : Text → Option Text) : Prop where
  escape : ∀ text, unescape (hive.escape text) = some text
  escapeValue : ∀ text, unescape (hive.escapeValue text) = some text
  default : unescape defaultPartitionName = some defaultPartitionName

/-- A location `Path` leaves as it is spelled. -/
structure HivePartitioning.Spelled (hive : HivePartitioning) (location : Text) : Prop where
  normal : hive.normalizePath location = location
  nonempty : location ≠ []
  directory : location ≠ ['.']
  closes : location.getLast? ≠ some '/'

section Canonical

variable {Value : Type} (casts : KeyCasts Value)

/-- A text that is stored as it is: NULL, any text of a string key, or what a value of the
key's type is printed as. -/
def IsCanonical (type : LogicalType) (text : Text) : Prop :=
  GlueTypes.partitionValueIsNull text type = true ∨ type.same .varchar = true ∨
    ∃ value, casts.tryCastAs text type = some value ∧ casts.toText value = text

variable {casts}

/-- A canonical text is what is stored for the value it is read as. -/
theorem partitionValue_canonical (string : ∀ text, casts.toText (casts.ofText text) = text) {type : LogicalType}
    {text : Text} (canonical : IsCanonical casts type text) (key : Text) :
    GlueTypes.partitionValue casts.toValueCasts key text type = .ok none ∨
      ∃ value, GlueTypes.partitionValue casts.toValueCasts key text type = .ok (some value) ∧ casts.toText value = text := by
  unfold GlueTypes.partitionValue
  split_ifs with null varchar
  · exact .inl rfl
  · exact .inr ⟨_, rfl, string text⟩
  · obtain spelled | isString | ⟨value, cast, printed⟩ := canonical
    · exact absurd spelled null
    · exact absurd isString varchar
    · rw [cast]
      exact .inr ⟨value, rfl, printed⟩

/-- What a key value prints as is cast to a value that prints the same. -/
def CastsBack (casts : KeyCasts Value) (castKey : LogicalType → Text → Except Exception Text) : Prop :=
  ∀ type given text, castKey type given = .ok text → type.same .varchar = true ∨
    ∃ value, casts.tryCastAs text type = some value ∧ casts.toText value = text

section Parsed

variable {castKey : LogicalType → Text → Except Exception Text} {table : GlueTableInfo} {types : List LogicalType}

/-- The values parsed so far are canonical. -/
structure CanonicalSoFar (casts : KeyCasts Value) (types : List LogicalType) (values : List (Option Text)) : Prop where
  counted : types.length = values.length
  canonical : ∀ (index : ℕ) (text : Text), values[index]? = some (some text) →
    ∃ type, types[index]? = some type ∧ IsCanonical casts type text

/-- A value of a key is filled in. -/
theorem CanonicalSoFar.set {values : List (Option Text)} (soFar : CanonicalSoFar casts types values) {index : ℕ}
    {text : Text} {type : LogicalType} (typed : types[index]? = some type) (canonical : IsCanonical casts type text) :
    CanonicalSoFar casts types (values.set index (some text)) := by
  constructor
  · rw [List.length_set]
    exact soFar.counted
  · intro other text' here
    by_cases same : index = other
    · subst same
      rw [List.getElem?_set_self'] at here
      obtain ⟨_, _, filled⟩ := Option.map_eq_some_iff.mp here
      cases filled
      exact ⟨type, typed, canonical⟩
    · rw [List.getElem?_set_ne same] at here
      exact soFar.canonical other text' here

/-- The type of the key a value is given for. -/
theorem exists_keyType (read : keyTypesOf table = .ok types) {index : ℕ} (inside : index < table.partitionKeys.length) :
    ∃ type, types[index]? = some type ∧
      GlueTypes.toLogicalType ((GluePartitionFunctions.keyTypes table).getD index ([], [])).2 = .ok type := by
  have typed := getElem?_mapM read index
  rw [List.getElem?_eq_getElem inside] at typed
  obtain ⟨type, ofType, isType⟩ := Option.map_eq_some_iff.mp typed
  refine ⟨type, ofType, ?_⟩
  rw [isType]
  simp [GluePartitionFunctions.keyTypes, inside]

theorem fillPartition_canonical (castsBack : CastsBack casts castKey) (read : keyTypesOf table = .ok types)
    {pairs : List (Text × Option Text)} {values filled : List (Option Text)}
    (soFar : CanonicalSoFar casts types values) (done : fillPartition castKey table values pairs = .ok filled) :
    CanonicalSoFar casts types filled := by
  induction pairs generalizing values with
  | nil =>
      cases done
      exact soFar
  | cons pair pairs ih =>
      obtain ⟨key, value⟩ := pair
      rw [fillPartition] at done
      split at done
      · cases done
      · rename_i index found
        obtain ⟨inside, _, _⟩ := List.findIdx?_eq_some_iff_getElem.mp found
        rw [GluePartitionFunctions.keyTypes, List.length_map] at inside
        obtain ⟨type, typed, parses⟩ := exists_keyType read inside
        rw [guard_throw_eq_ok] at done
        obtain ⟨_, done⟩ := done
        cases value with
        | none =>
            have null : GlueTypes.partitionValueIsNull defaultPartitionName type = true := by
              unfold GlueTypes.partitionValueIsNull
              rw [decide_eq_true rfl, Bool.true_or]
            exact ih (soFar.set typed (.inl null)) done
        | some given =>
            simp only [bind_eq_ok, parses, Except.ok.injEq, exists_eq_left'] at done
            obtain ⟨text, cast, done⟩ := done
            exact ih (soFar.set typed (.inr (castsBack _ _ _ cast))) done

/-- The values glue_add_partition registers are canonical. -/
theorem parsePartitionPairs_canonical (castsBack : CastsBack casts castKey)
    (read : keyTypesOf table = .ok types) {functionName : Text} {pairs : List (Text × Option Text)}
    {values : List Text} (parsed : parsePartitionPairs castKey functionName table pairs = .ok values) :
    List.Forall₂ (IsCanonical casts) types values := by
  obtain ⟨filled, done, all⟩ := bind_eq_ok.mp parsed
  have counted : types.length = (GluePartitionFunctions.keyTypes table).length := by
    rw [keyTypesOf_length read, GluePartitionFunctions.keyTypes, List.length_map]
  have start : CanonicalSoFar casts types ((GluePartitionFunctions.keyTypes table).map fun _ => none) := by
    constructor
    · rw [List.length_map]
      exact counted
    · intro index text here
      rw [List.getElem?_map] at here
      obtain ⟨_, _, never⟩ := Option.map_eq_some_iff.mp here
      cases never
  have soFar := fillPartition_canonical castsBack read start done
  have length := (mapM_eq_ok.mp all).length_eq
  rw [List.length_zip, ← counted, ← soFar.counted, Nat.min_self] at length
  apply List.forall₂_iff_get.mpr
  refine ⟨length, ?_⟩
  intro index inTypes inValues
  have inZip : index < (List.zip (GluePartitionFunctions.keyTypes table) filled).length := by
    rw [List.length_zip, ← counted, ← soFar.counted, Nat.min_self]
    exact inTypes
  have entry := (mapM_eq_ok.mp all).get inZip inValues
  simp only [List.get_eq_getElem, List.getElem_zip] at entry ⊢
  split at entry
  · rename_i value given
    cases entry
    have here : filled[index]? = some (some values[index]) := by
      rw [List.getElem?_eq_getElem (by rw [← soFar.counted]; exact inTypes), given]
    obtain ⟨type, typed, canonical⟩ := soFar.canonical index _ here
    rw [List.getElem?_eq_getElem inTypes] at typed
    cases typed
    exact canonical
  · cases entry

end Parsed

end Canonical

namespace GlueRepairTable

variable {Value : Type} {hive : HivePartitioning} {unescape : Text → Option Text} {casts : KeyCasts Value}
  {data : GlueRepairTable}

/-! ## A component -/

theorem unescape_escapedText (unescapes : hive.Unescapes unescape) (value : Text) :
    unescape (escapedText hive value) = some value := by
  unfold escapedText
  split_ifs with default
  · rw [default]
    exact unescapes.default
  · exact unescapes.escapeValue value

/-- The directories of a partition, one for each key. -/
def partitionComponents (hive : HivePartitioning) (keys values : List Text) : List Text :=
  List.zipWith (fun key value => hive.escape key ++ ['='] ++ escapedText hive value) keys values

theorem partitionComponents_plain (keys values : List Text) :
    ∀ part ∈ partitionComponents hive keys values, part ≠ [] ∧ part ≠ ['.'] ∧ part ≠ ['.', '.'] ∧ '/' ∉ part := by
  intro part member
  obtain ⟨nonempty, plain⟩ := directory_plain keys values part member
  have equals : '=' ∈ part := by
    obtain ⟨position, here⟩ := List.mem_iff_getElem?.mp member
    obtain ⟨key, value, -, -, rfl⟩ := List.getElem?_zipWith_eq_some.mp here
    simp
  refine ⟨nonempty, ?_, ?_, plain⟩
  · rintro rfl
    exact absurd equals (by decide)
  · rintro rfl
    exact absurd equals (by decide)

/-- The component of a key is split at the `=` the writer puts. -/
theorem readComponent_directory (unescapes : hive.Unescapes unescape)
    (string : ∀ text, casts.toText (casts.ofText text) = text) {key : GlueColumn} {type : LogicalType} {value : Text}
    (canonical : IsCanonical casts type value) :
    readComponent unescape casts key type (hive.escape key.name ++ ['='] ++ escapedText hive value) = some value := by
  have escaped : ∀ c ∈ hive.escape key.name, decide (c ≠ '=') = true := by
    intro c member
    rw [decide_eq_true_eq]
    intro equals
    rw [equals] at member
    exact (hive.escape_plain key.name).2 member
  have before : (hive.escape key.name ++ ['='] ++ escapedText hive value).takeWhile (· ≠ '=') = hive.escape key.name := by
    rw [List.append_assoc, List.takeWhile_append_of_pos escaped]
    simp
  have after : ((hive.escape key.name ++ ['='] ++ escapedText hive value).dropWhile (· ≠ '=')).drop 1 =
      escapedText hive value := by
    rw [List.append_assoc, List.dropWhile_append_of_pos escaped]
    simp
  have equals : '=' ∈ hive.escape key.name ++ ['='] ++ escapedText hive value := by simp
  unfold readComponent
  rw [if_pos equals, before, after, unescapes.escape, unescape_escapedText unescapes]
  simp only [Option.bind_eq_bind, Option.bind_some, ciEquals_refl, Bool.not_true, Bool.false_eq_true, if_false]
  obtain null | ⟨typed, read, printed⟩ := partitionValue_canonical string canonical key.name
  · rw [null]
  · rw [read]
    exact congrArg some printed

/-- The directories of the values, read key by key; what lies below them is left. -/
theorem readComponents_directory (unescapes : hive.Unescapes unescape)
    (string : ∀ text, casts.toText (casts.ofText text) = text) {keys : List (GlueColumn × LogicalType)}
    {values : List Text} (canonical : List.Forall₂ (fun key value => IsCanonical casts key.2 value) keys values)
    (below : List Text) :
    readComponents unescape casts keys (partitionComponents hive (keys.map (·.1.name)) values ++ below) =
      some (values, partitionComponents hive (keys.map (·.1.name)) values) := by
  induction canonical with
  | nil =>
      rw [readComponents]
      rfl
  | cons here _ ih =>
      unfold partitionComponents at ih ⊢
      rw [List.map_cons, List.zipWith_cons_cons, List.cons_append, readComponents,
        readComponent_directory unescapes string here, ih]

/-! ## A partition -/

def keyNames (data : GlueRepairTable) : List Text := data.table.partitionKeys.map (·.name)

/-- What glue_add_partition registers by default is read back. -/
structure FoundAgain (hive : HivePartitioning) (unescape : Text → Option Text) (casts : KeyCasts Value)
    (data : GlueRepairTable) (values : List Text) (directory : Text) : Prop where
  /-- The directory is the part of the default location below the root. -/
  located : hive.Spelled data.root → defaultPartitionLocation hive data.table values = .ok (data.rootPrefix ++ directory)
  /-- It is read back with whatever is below it. -/
  read : ∀ relative, relative = directory ∨ (∃ below, relative = directory ++ '/' :: below) →
    data.readDiscoveredPartition unescape casts relative = some (values, directory)
  /-- A run finds it by any data file, unless its values or its location are registered. -/
  found : ∀ registered fs, (∃ file ∈ fs.list data.root, isDataFile file data.rootPrefix = true ∧
      ∃ below, file.path = data.rootPrefix ++ directory ++ '/' :: below) →
    values ∈ registered.map (·.values) ∨
      data.rootPrefix ++ directory ∈ registered.map (fun partition => rtrim partition.location '/') ∨
        ∃ added ∈ data.added unescape casts registered fs, added.values = values

/-- The root a run lists is the location of the table. -/
theorem root_of_bind {transaction : Except Exception Unit} {table : GlueTableInfo}
    (bound : glueRepairTableBind transaction table = .ok data) :
    data.table = table ∧ data.root = rtrim table.location '/' := by
  unfold glueRepairTableBind at bound
  split at bound
  · cases bound
  · obtain ⟨_, _, bound⟩ := bind_eq_ok.mp bound
    split at bound
    · cases bound
    · split at bound
      · cases bound
      · cases bound
        exact ⟨rfl, rfl⟩

/-- The directory of a file below a directory is that directory, or lies below it. -/
theorem directoryOf_below (directory below : Text) : directoryOf (directory ++ '/' :: below) = directory ∨
    ∃ deeper, directoryOf (directory ++ '/' :: below) = directory ++ '/' :: deeper := by
  by_cases nested : '/' ∈ below
  · obtain ⟨name, deeper, same, plain⟩ := List.eq_append_cons_of_mem (List.mem_reverse.mpr nested)
    have whole : directory ++ '/' :: below = directory ++ '/' :: deeper.reverse ++ ['/'] ++ name.reverse := by
      have back := congrArg List.reverse same
      rw [List.reverse_reverse, List.reverse_append, List.reverse_cons] at back
      rw [back]
      simp only [List.append_assoc, List.cons_append]
    right
    refine ⟨deeper.reverse, ?_⟩
    rw [whole]
    exact directoryOf_file fun member => plain (List.mem_reverse.mp member)
  · left
    rw [← List.singleton_append, ← List.append_assoc]
    exact directoryOf_file nested

section Partition

variable {values : List Text}

theorem partitionComponents_ne_nil (counted : values.length = data.keyTypes.length) :
    partitionComponents hive data.keyNames values ≠ [] := by
  intro empty
  have length := congrArg List.length empty
  rw [partitionComponents, List.length_zipWith, keyNames, List.length_map, counted, data.typed, Nat.min_self] at length
  exact data.partitioned (List.length_eq_zero_iff.mp length)

/-- The directory is split into its components, whatever is below it. -/
theorem split_directory (counted : values.length = data.keyTypes.length) {relative : Text}
    (here : relative = hivePartitionDirectory hive data.keyNames values ∨
      ∃ below, relative = hivePartitionDirectory hive data.keyNames values ++ '/' :: below) :
    ∃ below, split relative '/' = partitionComponents hive data.keyNames values ++ below := by
  have plain : ∀ part ∈ partitionComponents hive data.keyNames values, part ≠ [] ∧ '/' ∉ part := directory_plain _ _
  have whole : Segments.split '/' (hivePartitionDirectory hive data.keyNames values) =
      partitionComponents hive data.keyNames values := Segments.split_intercalate plain
  obtain rfl | ⟨below, rfl⟩ := here
  · refine ⟨[], ?_⟩
    rw [List.append_nil]
    exact whole
  · refine ⟨split below '/', ?_⟩
    have closes : (hivePartitionDirectory hive data.keyNames values).getLast? ≠ some '/' :=
      Segments.intercalate_last plain
    have nonempty : hivePartitionDirectory hive data.keyNames values ≠ [] :=
      Segments.intercalate_ne_nil plain (partitionComponents_ne_nil counted)
    unfold split
    rw [Segments.split_append closes nonempty, whole]

/-- The directories of canonical values are read back to these values. -/
theorem readDiscoveredPartition_directory (unescapes : hive.Unescapes unescape)
    (string : ∀ text, casts.toText (casts.ofText text) = text)
    (canonical : List.Forall₂ (IsCanonical casts) data.keyTypes values) {relative : Text}
    (here : relative = hivePartitionDirectory hive data.keyNames values ∨
      ∃ below, relative = hivePartitionDirectory hive data.keyNames values ++ '/' :: below) :
    data.readDiscoveredPartition unescape casts relative =
      some (values, hivePartitionDirectory hive data.keyNames values) := by
  have typed : (data.table.partitionKeys.zip data.keyTypes).map (·.2) = data.keyTypes :=
    List.map_snd_zip (by rw [data.typed])
  have named : (data.table.partitionKeys.zip data.keyTypes).map (·.1) = data.table.partitionKeys :=
    List.map_fst_zip (by rw [data.typed])
  have keyed : (data.table.partitionKeys.zip data.keyTypes).map (·.1.name) = data.keyNames := by
    rw [keyNames, ← named, List.map_map, named]
    rfl
  obtain ⟨below, segments⟩ := split_directory canonical.length_eq.symm here
  rw [← typed, List.forall₂_map_left_iff] at canonical
  have read := readComponents_directory unescapes string canonical below
  rw [keyed] at read
  unfold readDiscoveredPartition
  rw [segments, read]
  rfl

theorem defaultPartitionLocation_directory (rooted : data.root = rtrim data.table.location '/')
    (spelled : hive.Spelled data.root) : defaultPartitionLocation hive data.table values =
      .ok (data.rootPrefix ++ hivePartitionDirectory hive data.keyNames values) := by
  have names : (GluePartitionFunctions.keyTypes data.table).map (·.1) = data.keyNames := by
    rw [GluePartitionFunctions.keyTypes, List.map_map]
    rfl
  unfold defaultPartitionLocation
  rw [← rooted, if_neg data.rooted.1, names, rootPrefix, List.append_assoc]
  exact congrArg Except.ok (hive.joinPath_plain data.root _ spelled.normal spelled.nonempty spelled.directory
    spelled.closes (partitionComponents_plain _ _))

/-- A data file at whatever depth below the directory makes it a candidate. -/
theorem mem_candidates_of_read {registered : List GluePartitionInfo} {fs : FileSystem} {file : OpenFileInfo}
    {directory below : Text} (read : ∀ relative, relative = directory ∨ (∃ below, relative = directory ++ '/' :: below) →
      data.readDiscoveredPartition unescape casts relative = some (values, directory))
    (listed : file ∈ fs.list data.root) (isData : isDataFile file data.rootPrefix = true)
    (path : file.path = data.rootPrefix ++ directory ++ '/' :: below) (newValues : values ∉ registered.map (·.values))
    (newLocation : data.rootPrefix ++ directory ∉ registered.map fun partition => rtrim partition.location '/') :
    (values, data.rootPrefix ++ directory) ∈ data.candidates unescape casts registered (fs.list data.root) := by
  obtain ⟨relative, same, inside⟩ : ∃ relative, directoryOf file.path = data.rootPrefix ++ relative ∧
      (relative = directory ∨ ∃ below, relative = directory ++ '/' :: below) := by
    rw [path]
    obtain same | ⟨deeper, same⟩ := directoryOf_below (data.rootPrefix ++ directory) below
    · exact ⟨_, same, .inl rfl⟩
    · exact ⟨_, by rw [same, List.append_assoc], .inr ⟨deeper, rfl⟩⟩
  have at_ : data.fileDirectory file = some (data.rootPrefix ++ relative) := by
    have slash : '/' ∈ file.path := by
      rw [path]
      simp
    unfold fileDirectory
    rw [isData, same, Bool.not_true, if_neg Bool.false_ne_true, if_neg]
    rw [not_or, not_not, List.length_append]
    exact ⟨slash, by omega⟩
  have candidate : data.candidate unescape casts registered (data.rootPrefix ++ relative) =
      some (values, data.rootPrefix ++ directory) := by
    unfold candidate
    rw [List.drop_left, read relative inside]
    simp only [Option.bind_eq_bind, Option.bind_some]
    rw [if_neg (not_or.mpr ⟨newValues, newLocation⟩)]
  apply List.mem_filterMap.mpr
  refine ⟨file, listed, ?_⟩
  rw [at_]
  exact candidate

end Partition

/-- Every partition at its default location is read back from there to its values. -/
theorem defaultPartitionLocation_foundAgain (unescapes : hive.Unescapes unescape)
    (string : ∀ text, casts.toText (casts.ofText text) = text) {transaction : Except Exception Unit}
    {table : GlueTableInfo} (bound : glueRepairTableBind transaction table = .ok data) {values : List Text}
    (canonical : List.Forall₂ (IsCanonical casts) data.keyTypes values) :
    FoundAgain hive unescape casts data values (hivePartitionDirectory hive data.keyNames values) := by
  obtain ⟨rfl, rooted⟩ := root_of_bind bound
  constructor
  · exact defaultPartitionLocation_directory rooted
  · intro relative here
    exact readDiscoveredPartition_directory unescapes string canonical here
  · intro registered fs here
    obtain ⟨file, listed, isData, below, path⟩ := here
    by_contra unknown
    obtain ⟨newValues, unfound⟩ := not_or.mp unknown
    obtain ⟨newLocation, unadded⟩ := not_or.mp unfound
    have member := mem_candidates_of_read
      (fun relative here => readDiscoveredPartition_directory unescapes string canonical here)
      listed isData path newValues newLocation
    obtain ⟨location, first⟩ := firstValue_of_mem member
    exact unadded ⟨⟨values, location⟩, mem_added.mpr first, rfl⟩

section Days

def repairedDays : GlueRepairTable where
  table := daysTable
  keyTypes := [.varchar]
  root := "s3://bucket/events"
  partitioned := by simp [daysTable]
  typed := by decide
  rooted := by decide

theorem percentHive_unescapes : percentHive.Unescapes fun text => some (percentUnescape text) where
  escape text := congrArg some (percentUnescape_percentEscape text)
  escapeValue text := congrArg some (percentUnescape_percentEscape text)
  default := by decide +kernel

/-- A value with all the characters a path gives a meaning. -/
theorem defaultPartitionLocation_foundAgain_slashed :
    FoundAgain percentHive (fun text => some (percentUnescape text)) textCasts repairedDays ["a/b=50% .".toList]
      (hivePartitionDirectory percentHive repairedDays.keyNames ["a/b=50% .".toList]) := by
  have bound : glueRepairTableBind (.ok ()) daysTable = .ok repairedDays := rfl
  have canonical : List.Forall₂ (IsCanonical textCasts) repairedDays.keyTypes ["a/b=50% .".toList] :=
    .cons (.inr (.inl rfl)) .nil
  exact defaultPartitionLocation_foundAgain percentHive_unescapes (fun _ => rfl) bound canonical

end Days

end GlueRepairTable

end DuckGlue
