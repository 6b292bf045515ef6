import DuckGlue.Planning.GlueHiveInsert

/-! # The directories an INSERT writes to

A directory below the table is a path of segments none of which is empty or `.`.
The hive directory of a row is one, its last segments read back as the texts of the
row's values, and rows with one hive directory have the same texts.
-/

namespace DuckGlue

open StringUtil Fallible

/-- A path the copy can write to below its target. -/
def IsDirectory (path : Text) : Prop :=
  ∃ parts, parts ≠ [] ∧ (∀ part ∈ parts, part ≠ [] ∧ part ≠ ['.'] ∧ '/' ∉ part) ∧ join parts ['/'] = path

section Directory

variable {path location tableLocation : Text}

theorem IsDirectory.plain {parts : List Text} (h : ∀ part ∈ parts, part ≠ [] ∧ part ≠ ['.'] ∧ '/' ∉ part) :
    ∀ part ∈ parts, part ≠ [] ∧ '/' ∉ part :=
  fun part member => ⟨(h part member).1, (h part member).2.2⟩

theorem IsDirectory.ne_nil (h : IsDirectory path) : path ≠ [] := by
  obtain ⟨parts, some, allowed, rfl⟩ := h
  exact Segments.intercalate_ne_nil (IsDirectory.plain allowed) some

/-- Below a location such a path stays as it is when compared. -/
theorem IsDirectory.comparable (h : IsDirectory path) (untrimmed : location.getLast? ≠ some '/') :
    comparableLocation (location ++ '/' :: path) = comparableLocation location ++ '/' :: path := by
  obtain ⟨parts, some, allowed, rfl⟩ := h
  have plain := IsDirectory.plain allowed
  exact comparableLocation_below untrimmed (Segments.intercalate_ne_nil plain some)
    (Segments.intercalate_head plain) (Segments.intercalate_last plain)

/-- A partition is at a directory the copy can write to exactly when its location is
that directory below the table's. -/
theorem relativePartitionPath_iff :
    relativePartitionPath tableLocation location = (path, true) ∧ path ≠ [] ↔
      IsDirectory path ∧ comparableLocation location = comparableLocation tableLocation ++ '/' :: path := by
  unfold relativePartitionPath
  dsimp only
  constructor
  · intro here
    obtain ⟨relative, nonempty⟩ := here
    split at relative
    · rename_i below
      obtain ⟨rest, whole⟩ := startsWith_iff.mp below
      have dropped : (comparableLocation location).drop (comparableLocation tableLocation ++ ['/']).length = rest := by
        rw [← whole, List.drop_left]
      simp only [dropped, Prod.mk.injEq, Bool.not_eq_eq_eq_not, Bool.not_true, List.any_eq_false] at relative
      obtain ⟨joined, writable⟩ := relative
      have all : (split rest '/').filter (fun component => !(decide (component = []) || decide (component = ['.']))) =
          split rest '/' := by
        apply List.filter_eq_self.mpr
        intro component member
        simpa using writable component member
      rw [all] at joined
      have some : rest ≠ [] := by
        rintro rfl
        exact nonempty joined.symm
      have last : rest.getLast? ≠ Option.some '/' := by
        have whole' := comparableLocation_last location
        rwa [← whole, List.getLast?_append_of_ne_nil _ some] at whole'
      have back : join (split rest '/') ['/'] = rest := Segments.intercalate_split last
      rw [back] at joined
      subst joined
      refine ⟨⟨split rest '/', Segments.split_ne_nil '/' some, ?_, back⟩, by simp [← whole]⟩
      intro part member
      have allowed := writable part member
      simp only [Bool.or_eq_true, decide_eq_true_eq, not_or] at allowed
      exact ⟨allowed.1, allowed.2, Segments.plain_of_mem_split member⟩
    · cases relative
      exact absurd rfl nonempty
  · intro here
    obtain ⟨⟨parts, some, allowed, rfl⟩, whole⟩ := here
    have plain := IsDirectory.plain allowed
    have below : startsWith (comparableLocation location) (comparableLocation tableLocation ++ ['/']) = true := by
      rw [startsWith_iff, whole]
      exact ⟨join parts ['/'], by simp⟩
    have dropped : (comparableLocation location).drop (comparableLocation tableLocation ++ ['/']).length =
        join parts ['/'] := by
      rw [whole]
      simp
    have back : split (join parts ['/']) '/' = parts := Segments.split_intercalate plain
    have all : parts.filter (fun component => !(decide (component = []) || decide (component = ['.']))) = parts := by
      apply List.filter_eq_self.mpr
      intro component member
      simp [(allowed component member).1, (allowed component member).2.1]
    rw [if_pos below, dropped, back, all]
    refine ⟨?_, Segments.intercalate_ne_nil plain some⟩
    simp only [Prod.mk.injEq, true_and, Bool.not_eq_eq_eq_not, Bool.not_true, List.any_eq_false]
    intro component member
    simp [(allowed component member).1, (allowed component member).2.1]

end Directory

namespace GlueHiveInsert

section HivePath

variable {Value : Type} {hive : HivePartitioning} {casts : KeyCasts Value} {table : GlueTableInfo}
  {columns : List PartitionColumn} {row other : List (Option Value)} {values : List Text}

theorem component_allowed (key : Text) (value : Option Value) :
    hivePartitionComponent hive casts key value ≠ [] ∧ hivePartitionComponent hive casts key value ≠ ['.'] ∧
      '/' ∉ hivePartitionComponent hive casts key value := by
  have equals : '=' ∈ hivePartitionComponent hive casts key value := by simp [hivePartitionComponent]
  refine ⟨fun none => ?_, fun dot => ?_, ?_⟩
  · simp [none] at equals
  · simp [dot] at equals
  · cases value with
    | none =>
        have default : '/' ∉ defaultPartitionName := by decide +kernel
        simp [hivePartitionComponent, escapedValue, (hive.escape_plain key).1, default]
    | some value =>
        simp [hivePartitionComponent, escapedValue, (hive.escape_plain key).1, hive.escapeValue_plain]

theorem components_allowed (columns : List PartitionColumn) (row : List (Option Value)) :
    ∀ part ∈ List.zipWith (fun column value => hivePartitionComponent hive casts column.1 value) columns row,
      part ≠ [] ∧ part ≠ ['.'] ∧ '/' ∉ part := by
  intro part member
  obtain ⟨position, here⟩ := List.mem_iff_getElem?.mp member
  obtain ⟨column, value, -, -, rfl⟩ := List.getElem?_zipWith_eq_some.mp here
  exact component_allowed column.1 value

theorem hivePath_isDirectory (keyed : columns ≠ []) (length : row.length = columns.length) :
    IsDirectory (hivePath hive casts columns row) := by
  refine ⟨_, ?_, components_allowed columns row, rfl⟩
  cases columns with
  | nil => exact absurd rfl keyed
  | cons column columns =>
      cases row with
      | nil => cases length
      | cons value row => simp

/-- What a component is read back as: the text an INSERT registers. -/
theorem unescape_escapedValue (value : Option Value) :
    hive.unescape (escapedValue hive casts value) = canonicalValue casts value := by
  cases value with
  | none => exact hive.unescape_default
  | some value => exact hive.unescape_escapeValue _

theorem unescape_escapedText (value : Text) : hive.unescape (escapedText hive value) = value := by
  unfold escapedText
  split
  · rename_i default
    rw [default, hive.unescape_default]
  · exact hive.unescape_escapeValue _

theorem componentValue_component {file key name : Text} (named : ciEquals name key = true) (value : Option Value) :
    componentValue hive file key (hivePartitionComponent hive casts name value) = .ok (canonicalValue casts value) := by
  have escaped : ∀ c ∈ hive.escape name, decide (c ≠ '=') = true := by
    intro c member
    have plain := (hive.escape_plain name).2
    simp only [decide_eq_true_eq]
    rintro rfl
    exact plain member
  have before : (hivePartitionComponent hive casts name value).takeWhile (· ≠ '=') = hive.escape name := by
    rw [hivePartitionComponent, List.append_assoc, List.takeWhile_append_of_pos escaped]
    simp
  have after : ((hivePartitionComponent hive casts name value).dropWhile (· ≠ '=')).drop 1 =
      escapedValue hive casts value := by
    rw [hivePartitionComponent, List.append_assoc, List.dropWhile_append_of_pos escaped]
    simp
  have equals : '=' ∈ hivePartitionComponent hive casts name value := by simp [hivePartitionComponent]
  rw [componentValue, before, after, hive.unescape_escape, if_pos ⟨equals, named⟩, unescape_escapedValue]

/-- The last directories of a hive path name the texts of the row's values. -/
theorem componentValues {keys : List Text} (file : Text)
    (named : List.Forall₂ (fun key (column : PartitionColumn) => ciEquals column.1 key = true) keys columns)
    (length : row.length = columns.length) :
    ((keys.zip (List.zipWith (fun column value => hivePartitionComponent hive casts column.1 value) columns row)).mapM
      fun (key, component) => componentValue hive file key component) = .ok (row.map (canonicalValue casts)) := by
  induction named generalizing row with
  | nil =>
      cases row with
      | nil => rfl
      | cons _ _ => cases length
  | cons here _ ih =>
      cases row with
      | nil => cases length
      | cons value row =>
          simp only [List.zipWith_cons_cons, List.zip_cons_cons, List.mapM_cons, bind_eq_ok, pure_eq_ok]
          exact ⟨_, componentValue_component here value, _, ih (by simpa using length), rfl⟩

/-- The components of a directory are those of a row only for the row's texts. -/
theorem canonical_of_components (length : row.length = columns.length) (valuesLength : values.length = columns.length)
    (same : List.zipWith (fun column value => hivePartitionComponent hive casts column.1 value) columns row =
      List.zipWith (fun key value => hive.escape key ++ ['='] ++ escapedText hive value) (columns.map (·.1)) values) :
    row.map (canonicalValue casts) = values := by
  induction columns generalizing row values with
  | nil => simp_all
  | cons column columns ih =>
      cases row with
      | nil => cases length
      | cons value row =>
          cases values with
          | nil => cases valuesLength
          | cons text values =>
              simp only [List.map_cons, List.zipWith_cons_cons, List.cons.injEq, hivePartitionComponent,
                List.append_cancel_left_eq] at same
              rw [List.map_cons, ih (by simpa using length) (by simpa using valuesLength) same.2,
                ← unescape_escapedValue, same.1, unescape_escapedText]

theorem directory_plain (keys values : List Text) :
    ∀ part ∈ List.zipWith (fun key value => hive.escape key ++ ['='] ++ escapedText hive value) keys values,
      part ≠ [] ∧ '/' ∉ part := by
  intro part member
  obtain ⟨position, here⟩ := List.mem_iff_getElem?.mp member
  obtain ⟨key, value, -, -, rfl⟩ := List.getElem?_zipWith_eq_some.mp here
  refine ⟨by simp, ?_⟩
  have plain : '/' ∉ escapedText hive value := by
    unfold escapedText
    split
    · rename_i default
      rw [default]
      decide +kernel
    · exact hive.escapeValue_plain value
  simp [(hive.escape_plain key).1, plain]

/-- Rows with one hive directory have the same texts. -/
theorem canonical_of_hivePath (length : row.length = columns.length) (valuesLength : values.length = columns.length)
    (same : hivePath hive casts columns row = hivePartitionDirectory hive (columns.map (·.1)) values) :
    row.map (canonicalValue casts) = values := by
  apply canonical_of_components length valuesLength
  rw [← Segments.split_intercalate (@directory_plain hive (columns.map (·.1)) values),
    ← Segments.split_intercalate (IsDirectory.plain (components_allowed columns row))]
  exact congrArg (Segments.split '/') same

/-- The hive directory of a row is that of its texts, none of which is NULL's. -/
theorem hivePath_canonical (plain : ∀ value ∈ row, ∀ v, value = some v → casts.toText v ≠ defaultPartitionName) :
    hivePath hive casts columns row =
      hivePartitionDirectory hive (columns.map (·.1)) (row.map (canonicalValue casts)) := by
  unfold hivePath hivePartitionDirectory
  congr 1
  induction columns generalizing row with
  | nil => rfl
  | cons column columns ih =>
      cases row with
      | nil => rfl
      | cons value row =>
          obtain ⟨here, later⟩ := List.forall_mem_cons.mp plain
          simp only [List.map_cons, List.zipWith_cons_cons, ih later]
          congr 1
          cases value with
          | none => simp [hivePartitionComponent, escapedValue, escapedText, canonicalValue]
          | some v => simp [hivePartitionComponent, escapedValue, escapedText, canonicalValue, here v rfl]

end HivePath

end GlueHiveInsert

end DuckGlue
