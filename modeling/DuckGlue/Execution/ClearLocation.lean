import DuckGlue.Core.GlueInfo
import DuckGlue.Planning.FileSystem
import Mathlib.Data.List.Nodup

/-! # Clearing the location of a new table

CREATE TABLE AS writes only to a location without data files. With `overwrite` those there
are deleted, unless a table of the database has a location at, above or below it.
-/

namespace DuckGlue

open StringUtil

/-- `RemoveFiles`: the objects left, and whether it threw. A path names the object whose key
it is in the scheme of the store. -/
structure FileRemoval (fs : FileSystem) where
  run : List Text → List StoredObject × Except Exception Unit
  named : ∀ {paths object}, object ∈ fs.objects → object ∉ (run paths).1 →
    ∃ path ∈ paths, normalizeScheme path = object.key
  all : ∀ {paths}, (run paths).2 = .ok () →
    (run paths).1 = fs.objects.filter fun object => !paths.any fun path => normalizeScheme path = object.key

/-- The objects left after `ClearLocation`, and whether it threw. -/
structure Cleared where
  remaining : List StoredObject
  result : Except Exception Unit

namespace GlueHiveCopy

variable (table : GlueTableInfo) (fs : FileSystem) (removal : FileRemoval fs) (location : Text)

def overlaps (other : GlueTableInfo) : Bool :=
  !(other.location.isEmpty || !locationsOverlap (comparableLocation location) (comparableLocation other.location))

/-- `ThrowIfLocationInUse`: `tables` is what Glue answers. -/
def throwIfLocationInUse (tables : Except Exception (List GlueTableInfo)) : Except Exception Unit :=
  match tables with
  | .error failed => .error failed
  | .ok tables =>
      match tables.find? (overlaps location) with
      | none => .ok ()
      | some other => .error (.invalidInput ("CREATE TABLE AS for Hive table '" ++ table.schemaName ++ "." ++ table.name ++
          "' WITH (overwrite = true) is not supported: its location '" ++ location ++ "' overlaps the location '" ++
          other.location ++ "' of table '" ++ table.schemaName ++ "." ++ other.name ++
          "', whose files it would delete. Give the table another location"))

/-- The files below the location that a scan would read. -/
def dataFiles : List OpenFileInfo := (fs.list location).filter (isDataFile · (location ++ ['/']))

/-- `ClearLocation` -/
def clearLocation (tables : Except Exception (List GlueTableInfo)) (overwrite : Bool) : Cleared :=
  if location.any fun c => c = '*' || c = '?' || c = '[' then
    ⟨fs.objects, .error (.invalidInput ("CREATE TABLE AS for Hive table '" ++ table.schemaName ++ "." ++ table.name ++
      "' is not supported: its location '" ++ location ++ "' contains a glob character (*, ? or [)"))⟩
  else
    match dataFiles fs location with
    | [] => ⟨fs.objects, .ok ()⟩
    | file :: files =>
        if !overwrite then
          ⟨fs.objects, .error (.invalidInput ("CREATE TABLE AS for Hive table '" ++ table.schemaName ++ "." ++ table.name ++
            "' is not supported: its location '" ++ location ++ "' already holds files (e.g. '" ++ file.path ++
            "'), such as those of a dropped table, which would read as rows of the new table. Delete them, give the " ++
            "table another location, or create it WITH (overwrite = true) to delete them"))⟩
        else
          match throwIfLocationInUse table location tables with
          | .error refused => ⟨fs.objects, .error refused⟩
          | .ok () =>
              match removal.run ((file :: files).map (·.path)) with
              | (remaining, .ok ()) => ⟨remaining, .ok ()⟩
              | (remaining, .error failed) =>
                  ⟨remaining, .error (.io ("CREATE TABLE AS for Hive table '" ++ table.schemaName ++ "." ++ table.name ++
                    "' failed deleting the " ++ (toString (file :: files).length).toList ++
                    " data files at its location '" ++ location ++ "', so the table was not created; some of the " ++
                    "files may already be deleted: " ++ failed.message))⟩

/-- What `GetGlobalSinkState` clears before it creates the table. -/
def clearTableLocation (tables : Except Exception (List GlueTableInfo)) (overwrite : Bool) : Cleared :=
  clearLocation table fs removal (rtrim table.location '/') tables overwrite

/-- An object that `IsDataFile` accepts below the location. -/
def isDataObject (object : StoredObject) : Bool :=
  startsWith object.key (normalizeScheme location ++ ['/']) &&
    isDataFile ⟨location ++ object.key.drop (normalizeScheme location).length, object.size⟩ (location ++ ['/'])

/-- At a location, or below it. -/
def IsAt (location : Text) (object : StoredObject) : Prop :=
  object.key = comparableLocation location ∨ Holds (comparableLocation location) object.key

section Cleared

variable {table : GlueTableInfo} {fs : FileSystem} {removal : FileRemoval fs} {location : Text}
  {tables : Except Exception (List GlueTableInfo)} {object : StoredObject} {overwrite : Bool}

theorem mem_dataFiles {file : OpenFileInfo} : file ∈ dataFiles fs location ↔ ∃ object ∈ fs.objects,
    isDataObject location object = true ∧
      file = ⟨location ++ object.key.drop (normalizeScheme location).length, object.size⟩ := by
  unfold dataFiles isDataObject
  rw [List.mem_filter, fs.mem_list]
  constructor
  · rintro ⟨⟨object, held, rest, key, rfl⟩, data⟩
    have drop : object.key.drop (normalizeScheme location).length = '/' :: rest := by
      rw [key, List.drop_left]
    have below : startsWith object.key (normalizeScheme location ++ ['/']) = true :=
      startsWith_iff.mpr ⟨rest, by simp [key]⟩
    refine ⟨object, held, ?_, by rw [drop]⟩
    rw [below, drop, Bool.true_and]
    exact data
  · rintro ⟨object, held, accepted, rfl⟩
    obtain ⟨below, data⟩ := Bool.and_eq_true_iff.mp accepted
    obtain ⟨rest, key⟩ := startsWith_iff.mp below
    rw [List.append_assoc] at key
    have drop : object.key.drop (normalizeScheme location).length = '/' :: rest := by
      rw [← key, List.drop_left]
      rfl
    exact ⟨⟨object, held, rest, key.symm, by rw [drop]⟩, data⟩

/-- The path a data file is listed at names it. -/
theorem isDataObject_key (untrimmed : location.getLast? ≠ some '/') (data : isDataObject location object = true) :
    Holds (normalizeScheme location) object.key ∧
      normalizeScheme (location ++ object.key.drop (normalizeScheme location).length) = object.key := by
  obtain ⟨below, accepted⟩ := Bool.and_eq_true_iff.mp data
  obtain ⟨rest, key⟩ := startsWith_iff.mp below
  refine ⟨⟨rest, key⟩, ?_⟩
  have drop : object.key.drop (normalizeScheme location).length = '/' :: rest := by
    rw [← key, List.append_assoc, List.drop_left]
    rfl
  have name : isDataName rest = true := by
    rw [drop] at accepted
    unfold isDataFile at accepted
    have start : (location ++ '/' :: rest).drop (location ++ ['/']).length = rest := by simp
    rw [start, Bool.and_eq_true_iff, Bool.and_eq_true_iff] at accepted
    exact accepted.1.2
  obtain ⟨c, cs, rfl, opens⟩ := isDataName_head name
  rw [drop, normalizeScheme_below untrimmed opens, ← key, List.append_assoc]
  rfl

/-- A table with a file of the location at or below its own overlaps it. -/
theorem overlaps_of_isAt {other : GlueTableInfo} (some : other.location ≠ [])
    (holds : Holds (comparableLocation location) object.key) (here : IsAt other.location object) :
    overlaps location other = true := by
  have overlap : locationsOverlap (comparableLocation location) (comparableLocation other.location) = true := by
    unfold locationsOverlap
    rw [Bool.or_eq_true, Bool.or_eq_true, startsWith_iff, startsWith_iff, decide_eq_true_eq]
    rcases here with same | below
    · rw [same] at holds
      exact .inr holds
    · rcases Nat.le_total (comparableLocation location).length (comparableLocation other.location).length with le | le
      · rcases holds.chain below le with equal | inside
        · exact .inl (.inl equal)
        · exact .inr inside
      · rcases below.chain holds le with equal | inside
        · exact .inl (.inl equal.symm)
        · exact .inl (.inr inside)
  have located : other.location.isEmpty = false := by
    cases empty : other.location with
    | nil => exact absurd empty some
    | cons _ _ => rfl
  rw [overlaps, overlap, located]
  rfl

/-- No table is at or above a file that is deleted. -/
theorem throwIfLocationInUse_ok (unused : throwIfLocationInUse table location tables = .ok ())
    (holds : Holds (comparableLocation location) object.key) :
    ∀ others, tables = .ok others → ∀ other ∈ others, other.location ≠ [] → ¬IsAt other.location object := by
  intro others listed other member some here
  unfold throwIfLocationInUse at unused
  rw [listed] at unused
  dsimp only at unused
  split at unused
  · rename_i none
    exact List.find?_eq_none.mp none other member (overlaps_of_isAt some holds here)
  · cases unused

/-- The data files are the objects the removal names. -/
theorem named_iff (untrimmed : location.getLast? ≠ some '/') (keys : (fs.objects.map (·.key)).Nodup)
    (held : object ∈ fs.objects) :
    (∃ path ∈ (dataFiles fs location).map (·.path), normalizeScheme path = object.key) ↔
      isDataObject location object = true := by
  constructor
  · rintro ⟨path, member, same⟩
    obtain ⟨file, inFiles, rfl⟩ := List.mem_map.mp member
    obtain ⟨other, otherHeld, data, rfl⟩ := mem_dataFiles.mp inFiles
    rw [(isDataObject_key untrimmed data).2] at same
    rwa [List.inj_on_of_nodup_map keys otherHeld held same] at data
  · intro data
    exact ⟨_, List.mem_map.mpr ⟨_, mem_dataFiles.mpr ⟨object, held, data, rfl⟩, rfl⟩, (isDataObject_key untrimmed data).2⟩

theorem dataFiles_eq_nil (none : dataFiles fs location = []) : ∀ object ∈ fs.objects, isDataObject location object = false := by
  intro object held
  cases data : isDataObject location object with
  | false => rfl
  | true =>
      have listed : _ ∈ dataFiles fs location := mem_dataFiles.mpr ⟨object, held, data, rfl⟩
      rw [none] at listed
      cases listed

/-- Where `ClearLocation` changes nothing: it threw, or found no data file. -/
def Untouched (fs : FileSystem) (location : Text) (cleared : Cleared) : Prop :=
  cleared.remaining = fs.objects ∧
    ((∃ thrown, cleared.result = .error thrown) ∨
      cleared.result = .ok () ∧ ∀ object ∈ fs.objects, isDataObject location object = false)

theorem clearLocation_cases (cleared : Cleared)
    (ran : clearLocation table fs removal location tables overwrite = cleared) :
    Untouched fs location cleared ∨ (overwrite = true ∧ throwIfLocationInUse table location tables = .ok () ∧
      cleared.remaining = (removal.run ((dataFiles fs location).map (·.path))).1 ∧
      (cleared.result = .ok () ↔ (removal.run ((dataFiles fs location).map (·.path))).2 = .ok ())) := by
  unfold clearLocation at ran
  split at ran
  · subst ran
    exact .inl ⟨rfl, .inl ⟨_, rfl⟩⟩
  · split at ran
    · rename_i none
      subst ran
      exact .inl ⟨rfl, .inr ⟨rfl, dataFiles_eq_nil none⟩⟩
    · rename_i file files listed
      cases overwrite with
      | false =>
          subst ran
          exact .inl ⟨rfl, .inl ⟨_, rfl⟩⟩
      | true =>
          rw [if_neg (by decide)] at ran
          split at ran
          · subst ran
            exact .inl ⟨rfl, .inl ⟨_, rfl⟩⟩
          · rename_i unused
            rw [listed]
            split at ran
            · rename_i remaining removed
              subst ran
              rw [removed]
              exact .inr ⟨rfl, unused, rfl, Iff.rfl⟩
            · rename_i remaining failed removed
              subst ran
              rw [removed]
              refine .inr ⟨rfl, unused, rfl, ?_⟩
              constructor
              · intro ok
                cases ok
              · intro ok
                cases ok

/-- What is deleted are data files of the location, and none of another table. -/
theorem clearTableLocation_safe (keys : (fs.objects.map (·.key)).Nodup) (cleared : Cleared)
    (ran : clearTableLocation table fs removal tables overwrite = cleared) :
    (∀ object ∈ fs.objects, object ∉ cleared.remaining → isDataObject (rtrim table.location '/') object = true ∧
        ∀ others, tables = .ok others → ∀ other ∈ others, other.location ≠ [] → ¬IsAt other.location object) ∧
      (cleared.result = .ok () →
        cleared.remaining = fs.objects.filter fun object => !isDataObject (rtrim table.location '/') object) ∧
      (∀ thrown, cleared.result = .error thrown → cleared.remaining = fs.objects ∨
        ∃ failed, (removal.run ((dataFiles fs (rtrim table.location '/')).map (·.path))).2 = .error failed) ∧
      (overwrite = false → cleared.remaining = fs.objects ∧
        ((∃ object ∈ fs.objects, isDataObject (rtrim table.location '/') object = true) →
          ∃ thrown, cleared.result = .error thrown)) := by
  have untrimmed : (rtrim table.location '/').getLast? ≠ some '/' := Segments.trimEnd_last table.location
  have canonical : comparableLocation (rtrim table.location '/') = normalizeScheme (rtrim table.location '/') :=
    congrArg normalizeScheme (Segments.trimEnd_of_last untrimmed)
  rcases clearLocation_cases cleared ran with ⟨same, outcome⟩ | ⟨overwriting, unused, remaining, result⟩
  · refine ⟨fun object held gone => ?_, fun ok => ?_, fun thrown _ => .inl same, fun _ => ⟨same, ?_⟩⟩
    · rw [same] at gone
      exact absurd held gone
    · rcases outcome with ⟨thrown, error⟩ | ⟨_, none⟩
      · rw [error] at ok
        cases ok
      · rw [same, eq_comm, List.filter_eq_self]
        intro object held
        rw [none object held]
        rfl
    · rintro ⟨object, held, data⟩
      rcases outcome with error | ⟨_, none⟩
      · exact error
      · rw [none object held] at data
        cases data
  · refine ⟨fun object held gone => ?_, fun ok => ?_, fun thrown error => .inr ?_, fun keep => ?_⟩
    · rw [remaining] at gone
      have data := (named_iff untrimmed keys held).mp (removal.named held gone)
      refine ⟨data, throwIfLocationInUse_ok unused ?_⟩
      rw [canonical]
      exact (isDataObject_key untrimmed data).1
    · rw [remaining, removal.all (result.mp ok)]
      apply List.filter_congr
      intro object held
      have same := named_iff untrimmed keys held
      rw [Bool.not_inj_iff, Bool.eq_iff_iff, List.any_eq_true, ← same]
      simp only [decide_eq_true_eq]
    · cases removed : (removal.run ((dataFiles fs (rtrim table.location '/')).map (·.path))).2 with
      | error failed => exact ⟨failed, rfl⟩
      | ok done =>
          rw [result.mpr removed] at error
          cases error
    · rw [overwriting] at keep
      cases keep

/-- A removal that deletes what it is told to. -/
def completeRemoval (fs : FileSystem) : FileRemoval fs where
  run paths := (fs.objects.filter fun object => !paths.any fun path => normalizeScheme path = object.key, .ok ())
  named := by
    intro paths object held gone
    by_contra none
    apply gone
    rw [List.mem_filter, Bool.not_eq_true', List.any_eq_false]
    refine ⟨held, fun path member same => none ⟨path, member, of_decide_eq_true same⟩⟩
  all _ := rfl

def storedFiles : FileSystem :=
  .ofObjects [⟨"s3://bucket/events/a.parquet", some 4⟩, ⟨"s3://bucket/events_old/b.parquet", some 4⟩]

theorem clearTableLocation_events :
    (clearTableLocation { name := "events", schemaName := "db", location := "s3a://bucket/events/" } storedFiles
        (completeRemoval storedFiles) (.ok [{ name := "events_old", location := "s3://bucket/events_old" }]) true).remaining =
      storedFiles.objects.filter fun object => !isDataObject (rtrim "s3a://bucket/events/" '/') object := by
  have keys : (storedFiles.objects.map (·.key)).Nodup := by decide +kernel
  exact (clearTableLocation_safe keys _ rfl).2.1 (by decide +kernel)

end Cleared

end GlueHiveCopy

end DuckGlue
