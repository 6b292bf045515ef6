import DuckGlue.Core.HiveLocation

/-! # Listed files

A file system holds objects under keys of one scheme spelling. Listing a directory
answers with the objects below it, at any depth, under the spelling it was asked
in; which of them are data files is decided by what follows the directory.
-/

namespace DuckGlue

open StringUtil

/-- An object the store holds. -/
structure StoredObject where
  key : Text
  /-- The size a listing reports, if any. -/
  size : Option Nat
  deriving Repr, DecidableEq

structure OpenFileInfo where
  path : Text
  /-- `ListedFileSize` -/
  size : Option Nat
  deriving Repr, DecidableEq

/-- `GlobFileList(directory + "/**")`: every object whose key starts with the
directory and a slash, in some order. -/
structure FileSystem where
  objects : List StoredObject
  list : Text → List OpenFileInfo
  mem_list : ∀ {directory file}, file ∈ list directory ↔ ∃ object ∈ objects, ∃ rest,
    object.key = normalizeScheme directory ++ '/' :: rest ∧ file = ⟨directory ++ '/' :: rest, object.size⟩

/-- The listing in the order the objects are held. -/
def FileSystem.ofObjects (objects : List StoredObject) : FileSystem where
  objects := objects
  list directory :=
    (objects.filter fun object => startsWith object.key (normalizeScheme directory ++ ['/'])).map fun object =>
      ⟨directory ++ object.key.drop (normalizeScheme directory).length, object.size⟩
  mem_list := by
    intro directory file
    simp only [List.mem_map, List.mem_filter, startsWith_iff]
    refine ⟨?_, ?_⟩
    · intro listed
      obtain ⟨object, ⟨held, rest, below⟩, rfl⟩ := listed
      refine ⟨object, held, rest, by simp [← below], ?_⟩
      simp [← below]
    · intro listed
      obtain ⟨object, held, rest, below, rfl⟩ := listed
      exact ⟨object, ⟨held, rest, by simp [below]⟩, by simp [below]⟩

/-- A path component Hive skips. -/
def isHidden (component : Text) : Bool :=
  component = [] || component.head? = some '_' || component.head? = some '.'

/-- The components `IsDataFile` accepts below the prefix. -/
def isDataName (rest : Text) : Bool :=
  let components := split rest '/'
  components.all (!isHidden ·) &&
    match components.getLast? with
    | none => false
    | some last => !endsWith last "_$folder$"

/-- `IsDataFile` -/
def isDataFile (file : OpenFileInfo) (pathPrefix : Text) : Bool :=
  startsWith file.path pathPrefix && isDataName (file.path.drop pathPrefix.length) &&
    match file.size with
    | none => true
    | some size => size > 0

/-- The files below `location` that `ListDataFiles` keeps. -/
def FileSystem.listDataFiles (fs : FileSystem) (location : Text) : List OpenFileInfo :=
  let directory := rtrim location '/'
  if directory = [] then []
  else (fs.list directory).filter (isDataFile · (directory ++ ['/']))

/-- A size with which an object is a data file. -/
def holdsRows : Option Nat → Bool
  | none => true
  | some size => size > 0

section DataNames

variable {rel rest : Text}

/-- No component of a path below a location is empty or hidden. -/
def isVisible (path : Text) : Bool := (split path '/').all (!isHidden ·)

theorem isDataName_head (data : isDataName rest = true) : ∃ c cs, rest = c :: cs ∧ c ≠ '/' := by
  cases rest with
  | nil => simp [isDataName, split] at data
  | cons c cs =>
      refine ⟨c, cs, rfl, ?_⟩
      intro slash
      subst slash
      simp [isDataName, split, Segments.split_sep, isHidden] at data

/-- A data file below a directory of the root is one below the root exactly when
nothing on the way is hidden. -/
theorem isDataName_append (rel_ne : rel ≠ []) (rel_last : rel.getLast? ≠ some '/') (rest_ne : rest ≠ []) :
    isDataName (rel ++ '/' :: rest) = (isVisible rel && isDataName rest) := by
  obtain ⟨c, cs, shape⟩ := List.exists_cons_of_ne_nil (Segments.split_ne_nil '/' rest_ne)
  have last : (Segments.split '/' rel ++ Segments.split '/' rest).getLast? =
      (Segments.split '/' rest).getLast? := by
    rw [shape, List.getLast?_append_of_ne_nil _ (by simp)]
  simp only [isDataName, isVisible, split, Segments.split_append rel_last rel_ne, List.all_append, last,
    Bool.and_assoc]

end DataNames

section ListedBelow

variable {fs : FileSystem} {location : Text} {file : OpenFileInfo}

theorem mem_listDataFiles_list : file ∈ fs.listDataFiles location ↔ rtrim location '/' ≠ [] ∧
    file ∈ fs.list (rtrim location '/') ∧ isDataFile file (rtrim location '/' ++ ['/']) = true := by
  unfold FileSystem.listDataFiles
  by_cases empty : rtrim location '/' = [] <;> simp [empty]

/-- A listed data file: an object below the directory, its name and its size. -/
theorem mem_listDataFiles : file ∈ fs.listDataFiles location ↔
    rtrim location '/' ≠ [] ∧ ∃ object ∈ fs.objects, ∃ rest,
      object.key = comparableLocation location ++ '/' :: rest ∧ isDataName rest = true ∧
        holdsRows object.size = true ∧ file = ⟨rtrim location '/' ++ '/' :: rest, object.size⟩ := by
  rw [mem_listDataFiles_list]
  by_cases empty : rtrim location '/' = []
  · simp [empty]
  · simp only [empty, fs.mem_list, ne_eq, not_false_eq_true, true_and, comparableLocation]
    refine ⟨?_, ?_⟩
    · intro listed
      obtain ⟨⟨object, held, rest, key, rfl⟩, data⟩ := listed
      simp only [isDataFile, List.length_append, List.length_singleton, Bool.and_eq_true] at data
      have drop : (rtrim location '/' ++ '/' :: rest).drop ((rtrim location '/').length + 1) = rest := by simp
      rw [drop] at data
      exact ⟨object, held, rest, key, data.1.2, data.2, rfl⟩
    · intro listed
      obtain ⟨object, held, rest, key, name, rows, rfl⟩ := listed
      refine ⟨⟨object, held, rest, key, rfl⟩, ?_⟩
      have start : startsWith (rtrim location '/' ++ '/' :: rest) (rtrim location '/' ++ ['/']) = true :=
        startsWith_iff.mpr ⟨rest, by simp⟩
      have drop : (rtrim location '/' ++ '/' :: rest).drop ((rtrim location '/').length + 1) = rest := by simp
      simp only [isDataFile, start, List.length_append, List.length_singleton, drop, name, Bool.true_and]
      exact rows

/-- Where the path of a data file lies, compared: below the location it was listed
at, whatever spelling the listing used. -/
theorem comparableLocation_listed {rest : Text} (data : isDataName rest = true) :
    comparableLocation (rtrim location '/' ++ '/' :: rest) =
      comparableLocation location ++ '/' :: rtrim rest '/' := by
  obtain ⟨c, cs, rfl, opens⟩ := isDataName_head data
  have trimmed : rtrim (rtrim location '/' ++ '/' :: c :: cs) '/' =
      rtrim location '/' ++ '/' :: c :: rtrim cs '/' := by
    have inner : rtrim ('/' :: c :: cs) '/' = '/' :: rtrim (c :: cs) '/' :=
      Segments.trimEnd_append (p := ['/']) ⟨c, by simp, opens⟩
    rw [rtrim, Segments.trimEnd_append ⟨c, by simp, opens⟩]
    exact congrArg _ (inner.trans (congrArg _ (Segments.trimEnd_cons opens)))
  have name : rtrim (c :: cs) '/' = c :: rtrim cs '/' := Segments.trimEnd_cons opens
  rw [comparableLocation, trimmed, name, comparableLocation]
  exact normalizeScheme_below (Segments.trimEnd_last location) opens

end ListedBelow

end DuckGlue
