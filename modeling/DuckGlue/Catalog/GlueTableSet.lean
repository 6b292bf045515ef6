import DuckGlue.Core.GlueTypes

/-! # The table set of a schema

The entries of the tables of a Glue database, by name. A lookup replaces the entry of a
table whose version changed and takes out that of one that is gone; an entry taken out
is retired, not freed.
-/

namespace DuckGlue

open StringUtil

/-- A table or view entry; `object` tells entries apart, also of the same definition. -/
structure CatalogEntry where
  object : ℕ
  info : GlueTableInfo

/-- The entries of a schema, by lower case name. -/
structure GlueTableSet where
  entries : AList (fun _ : Text => CatalogEntry) := ∅
  isLoaded : Bool := false

/-- What a set does in one critical section: at most one entry leaves it. -/
structure SetChange where
  set : GlueTableSet
  retired : Option CatalogEntry := none

namespace GlueTableSet

/-- `ColumnList::AddColumn` refuses a second column of a name. -/
def addColumns : List Text → List GlueColumn → Except Exception Unit
  | _, [] => .ok ()
  | names, column :: columns => do
      let _ ← GlueTypes.toLogicalType column.type
      if names.any (ciEquals column.name) then
        throw (.catalog ("Column with name " ++ column.name ++ " already exists!"))
      addColumns (column.name :: names) columns

/-- `CreateEntry` of a definition: the entry of a view is unbound. -/
def buildEntry (object : ℕ) (table : GlueTableInfo) : Except Exception CatalogEntry :=
  if table.isView then .ok ⟨object, table⟩
  else do
    addColumns [] (table.columns ++ table.partitionKeys)
    return ⟨object, table⟩

variable (set : GlueTableSet)

def find (name : Text) : Option CatalogEntry := set.entries.lookup (lower name)

def erase (name : Text) : GlueTableSet := { set with entries := set.entries.erase (lower name) }

def emplace (name : Text) (entry : CatalogEntry) : GlueTableSet :=
  { set with entries := set.entries.insert (lower name) entry }

/-- `RetireEntry` -/
def retireEntry (name : Text) : SetChange := ⟨set.erase name, set.find name⟩

/-- `RemoveEntry` -/
def removeEntry (name : Text) : SetChange := set.retireEntry name

/-- `CreateEntry` of an entry, replacing the one of its name. -/
def createEntry (entry : CatalogEntry) : SetChange :=
  ⟨(set.erase entry.info.name).emplace entry.info.name entry, set.find entry.info.name⟩

/-- The second half of `GetEntry`: what Glue holds under the name is compared with the
entry that is there now. -/
def getEntry (object : ℕ) (name : Text) (table : Option GlueTableInfo) :
    SetChange × Except Exception (Option CatalogEntry) :=
  match table with
  | none => (set.retireEntry name, .ok none)
  | some table =>
      match set.find table.name with
      | some existing =>
          if existing.info.isSameVersion table then (⟨set, none⟩, .ok (some existing))
          else replace table
      | none => replace table
where
  replace (table : GlueTableInfo) : SetChange × Except Exception (Option CatalogEntry) :=
    match buildEntry object table with
    | .ok entry => (⟨(set.erase table.name).emplace table.name entry, set.find table.name⟩, .ok (some entry))
    | .error exception => (set.retireEntry table.name, .error exception)

/-- What `LoadEntries` does with a table of the list: one that can not become an entry
is left out. -/
def loadTable (object : ℕ) (table : GlueTableInfo) : SetChange :=
  match set.find table.name with
  | some existing => if existing.info.isSameVersion table then ⟨set, none⟩ else load
  | none => load
where
  load : SetChange :=
    match buildEntry object table with
    | .ok entry => ⟨(set.erase table.name).emplace table.name entry, set.find table.name⟩
    | .error _ => ⟨set, none⟩

/-- What `Scan` gives to its callback once the set is loaded. -/
def scanned : List CatalogEntry := set.entries.entries.map (·.2)

/-- A critical section touches the entry of one name: it keeps it, or retires it for a
new one or none. -/
structure Touches (object : ℕ) (name : Text) (change : SetChange) : Prop where
  others : ∀ other, other ≠ name → change.set.entries.lookup other = set.entries.lookup other
  here : change.set.entries.lookup name = set.entries.lookup name ∧ change.retired = none ∨
    change.retired = set.entries.lookup name ∧
      ∀ entry, change.set.entries.lookup name = some entry → entry.object = object

variable {set : GlueTableSet} {object : ℕ} {name : Text}

theorem touches_none : set.Touches object name ⟨set, none⟩ := ⟨fun _ _ => rfl, .inl ⟨rfl, rfl⟩⟩

theorem retireEntry_touches : set.Touches object (lower name) (set.retireEntry name) := by
  constructor
  · intro other differs
    exact AList.lookup_erase_ne differs
  · right
    refine ⟨rfl, fun entry found => ?_⟩
    rw [retireEntry, erase, AList.lookup_erase] at found
    cases found

/-- Retiring the entry of a name and putting another in its place. -/
theorem emplace_touches {entry : CatalogEntry} (new : entry.object = object) :
    set.Touches object (lower name) ⟨(set.erase name).emplace name entry, set.find name⟩ := by
  constructor
  · intro other differs
    exact (AList.lookup_insert_ne differs).trans (AList.lookup_erase_ne differs)
  · right
    refine ⟨rfl, fun other found => ?_⟩
    rw [emplace, AList.lookup_insert] at found
    cases found
    exact new

theorem buildEntry_object {table : GlueTableInfo} {entry : CatalogEntry} (built : buildEntry object table = .ok entry) :
    entry.object = object := by
  unfold buildEntry at built
  split_ifs at built with view
  · cases built
    rfl
  · cases added : addColumns [] (table.columns ++ table.partitionKeys) with
    | error => rw [added] at built; cases built
    | ok => rw [added] at built; cases built; rfl

theorem buildEntry_info {table : GlueTableInfo} {entry : CatalogEntry} (built : buildEntry object table = .ok entry) :
    entry.info = table := by
  unfold buildEntry at built
  split_ifs at built with view
  · cases built
    rfl
  · cases added : addColumns [] (table.columns ++ table.partitionKeys) with
    | error => rw [added] at built; cases built
    | ok => rw [added] at built; cases built; rfl

/-- Whether a definition can become an entry does not depend on the entry's number. -/
theorem buildEntry_isOk (object other : ℕ) (table : GlueTableInfo) :
    (buildEntry object table).isOk = (buildEntry other table).isOk := by
  unfold buildEntry
  split_ifs
  · rfl
  · cases added : addColumns [] (table.columns ++ table.partitionKeys) with
    | error => rfl
    | ok => rfl

theorem lookup_retireEntry {other : Text} {entry : CatalogEntry}
    (found : (set.retireEntry name).set.entries.lookup other = some entry) : set.entries.lookup other = some entry := by
  by_cases same : other = lower name
  · rw [same, retireEntry, erase, AList.lookup_erase] at found
    cases found
  · rwa [retireEntry, erase, AList.lookup_erase_ne same] at found

/-- What is in the set after an entry took the place of the one of its name. -/
theorem lookup_emplace {entry other : CatalogEntry} {key : Text}
    (found : ((set.erase name).emplace name entry).entries.lookup key = some other) :
    set.entries.lookup key = some other ∨ other = entry ∧ lower name = key := by
  by_cases same : key = lower name
  · rw [same, emplace, AList.lookup_insert] at found
    exact .inr ⟨(Option.some.inj found).symm, same.symm⟩
  · rw [emplace, AList.lookup_insert_ne same, erase, AList.lookup_erase_ne same] at found
    exact .inl found

theorem find_emplace (entry : CatalogEntry) (name other : Text) :
    (((set.erase name).emplace name entry).find other).isSome = true ↔
      (set.find other).isSome = true ∨ lower other = lower name := by
  unfold find
  by_cases same : lower other = lower name
  · rw [same, emplace, AList.lookup_insert]
    simp
  · rw [emplace, AList.lookup_insert_ne same, erase, AList.lookup_erase_ne same]
    simp [same]

/-- Loading a table puts an entry of its name into the set if it can become one. -/
theorem find_loadTable (table : GlueTableInfo) (name : Text) :
    ((set.loadTable object table).set.find name).isSome = true ↔
      (set.find name).isSome = true ∨ lower name = lower table.name ∧ (buildEntry object table).isOk = true := by
  have loaded : ((loadTable.load set object table).set.find name).isSome = true ↔
      (set.find name).isSome = true ∨ lower name = lower table.name ∧ (buildEntry object table).isOk = true := by
    unfold loadTable.load
    cases built : buildEntry object table with
    | error => simp [Except.isOk, Except.toBool]
    | ok entry => simpa [Except.isOk, Except.toBool] using find_emplace entry table.name name
  unfold loadTable
  cases found : set.find table.name with
  | none => exact loaded
  | some existing =>
      by_cases same : existing.info.isSameVersion table = true
      · simp only [same, if_true]
        constructor
        · exact Or.inl
        · intro either
          rcases either with here | ⟨named, _⟩
          · exact here
          · have there : set.find name = set.find table.name := by rw [find, find, named]
            rw [there, found]
            rfl
      · simp only [same]
        exact loaded

/-- A lookup finds nothing just where Glue holds nothing. -/
theorem getEntry_ok_none {table : Option GlueTableInfo} :
    (set.getEntry object name table).2 = .ok none ↔ table = none := by
  have replaced : ∀ one, (getEntry.replace set object one).2 ≠ .ok none := by
    intro one
    unfold getEntry.replace
    cases buildEntry object one <;> simp
  cases table with
  | none => simp [getEntry]
  | some table =>
      cases found : set.find table.name with
      | none => simpa [getEntry, found] using replaced table
      | some existing =>
          by_cases same : existing.info.isSameVersion table = true
          · simp [getEntry, found, same]
          · simpa [getEntry, found, same] using replaced table

theorem replace_touches (table : GlueTableInfo) :
    set.Touches object (lower table.name) (getEntry.replace set object table).1 ∧
      ∀ entry, (getEntry.replace set object table).2 = .ok (some entry) →
        (getEntry.replace set object table).1.set.entries.lookup (lower table.name) = some entry := by
  unfold getEntry.replace
  cases built : buildEntry object table with
  | error => exact ⟨retireEntry_touches, fun entry given => by cases given⟩
  | ok entry =>
      refine ⟨emplace_touches (buildEntry_object built), fun other given => ?_⟩
      cases given
      exact AList.lookup_insert _

/-- A lookup touches one name, and gives an entry that is in the set. -/
theorem getEntry_touches (table : Option GlueTableInfo) :
    ∃ touched, set.Touches object touched (set.getEntry object name table).1 ∧
      ∀ entry, (set.getEntry object name table).2 = .ok (some entry) →
        (set.getEntry object name table).1.set.entries.lookup touched = some entry := by
  cases table with
  | none => exact ⟨_, retireEntry_touches, fun entry given => by cases given⟩
  | some table =>
      refine ⟨lower table.name, ?_⟩
      cases found : set.find table.name with
      | none =>
          simp only [getEntry, found]
          exact replace_touches table
      | some existing =>
          by_cases same : existing.info.isSameVersion table = true
          · simp only [getEntry, found, same, if_true]
            refine ⟨touches_none, fun entry given => ?_⟩
            cases given
            exact found
          · simp only [getEntry, found, same]
            exact replace_touches table

theorem loadTable_touches (table : GlueTableInfo) :
    set.Touches object (lower table.name) (set.loadTable object table) := by
  have loaded : set.Touches object (lower table.name) (loadTable.load set object table) := by
    unfold loadTable.load
    cases built : buildEntry object table with
    | error => exact touches_none
    | ok entry => exact emplace_touches (buildEntry_object built)
  unfold loadTable
  cases set.find table.name with
  | none => exact loaded
  | some existing =>
      by_cases same : existing.info.isSameVersion table = true
      · simp only [same, if_true]
        exact touches_none
      · simp only [same]
        exact loaded

/-- What a load makes of the entry of a name and the table Glue holds under it: the
entry stays where it is of the table's version, or the table can become none. -/
def merged : Option GlueTableInfo → Option GlueTableInfo → Option GlueTableInfo
  | existing, none => existing
  | none, some table => if (buildEntry 0 table).isOk then some table else none
  | some existing, some table =>
      if existing.isSameVersion table || !(buildEntry 0 table).isOk then some existing else some table

theorem merged_again (existing table : Option GlueTableInfo) :
    merged (merged existing table) table = merged existing table := by
  cases table with
  | none => cases existing <;> rfl
  | some table =>
      cases existing with
      | none =>
          cases readable : (buildEntry 0 table).isOk <;> simp [merged, readable]
      | some existing =>
          cases readable : (buildEntry 0 table).isOk <;> cases same : existing.isSameVersion table <;>
            simp [merged, readable, same]

theorem find_emplace_eq (entry : CatalogEntry) {name other : Text} (named : lower other = lower name) :
    ((set.erase name).emplace name entry).find other = some entry := by
  rw [find, emplace, named, AList.lookup_insert]

/-- Loading a table, what the entry of a name is about. -/
theorem find_loadTable_info (table : GlueTableInfo) (name : Text) :
    ((set.loadTable object table).set.find name).map (·.info) =
      if lower name = lower table.name then merged ((set.find name).map (·.info)) (some table)
      else (set.find name).map (·.info) := by
  split_ifs with named
  · have there : set.find name = set.find table.name := by rw [find, find, named]
    have loaded : ((loadTable.load set object table).set.find name).map (·.info) =
        if (buildEntry 0 table).isOk then some table else (set.find name).map (·.info) := by
      unfold loadTable.load
      rw [buildEntry_isOk 0 object]
      cases built : buildEntry object table with
      | error => rfl
      | ok entry =>
          simp only [find_emplace_eq entry named, Option.map_some, buildEntry_info built]
          rfl
    unfold loadTable
    rw [← there]
    cases found : set.find name with
    | none => simpa [merged, found] using loaded
    | some existing =>
        cases same : existing.info.isSameVersion table with
        | true => simp [merged, found, same]
        | false =>
            cases readable : (buildEntry 0 table).isOk <;> simpa [merged, found, same, readable] using loaded
  · exact congrArg _ ((@loadTable_touches set object table).others (lower name) named)

theorem replace_info (object : ℕ) (table : GlueTableInfo) :
    (getEntry.replace set object table).2.map (·.map (·.info)) = (buildEntry 0 table).map fun _ => some table := by
  unfold getEntry.replace buildEntry
  split_ifs with view
  · rfl
  · cases addColumns [] (table.columns ++ table.partitionKeys) <;> rfl

/-- What a lookup returns is about what Glue holds and what the set's entry is about. -/
theorem getEntry_info_congr {other : GlueTableSet} {table : GlueTableInfo} {later : ℕ}
    (same : other.find table.name = set.find table.name) :
    (other.getEntry later name (some table)).2.map (·.map (·.info)) =
      (set.getEntry object name (some table)).2.map (·.map (·.info)) := by
  unfold getEntry
  simp only [same]
  cases set.find table.name with
  | none => exact (replace_info later table).trans (replace_info object table).symm
  | some existing =>
      dsimp only
      split_ifs
      · rfl
      · exact (replace_info later table).trans (replace_info object table).symm

/-- A lookup leaves entries that were there, or one built from what Glue holds under its name. -/
theorem lookup_getEntry_built {table : Option GlueTableInfo} {entry : CatalogEntry} {key : Text}
    (found : (set.getEntry object name table).1.set.entries.lookup key = some entry) :
    set.entries.lookup key = some entry ∨
      table = some entry.info ∧ lower entry.info.name = key ∧ buildEntry object entry.info = .ok entry := by
  have replaced : ∀ one, (getEntry.replace set object one).1.set.entries.lookup key = some entry →
      set.entries.lookup key = some entry ∨
        some one = some entry.info ∧ lower entry.info.name = key ∧ buildEntry object entry.info = .ok entry := by
    intro one there
    unfold getEntry.replace at there
    cases built : buildEntry object one with
    | error => rw [built] at there; exact .inl (lookup_retireEntry there)
    | ok new =>
        rw [built] at there
        apply (lookup_emplace there).imp_right
        rintro ⟨rfl, named⟩
        have same := buildEntry_info built
        rw [same]
        exact ⟨rfl, named, built⟩
  cases table with
  | none => exact .inl (lookup_retireEntry found)
  | some table =>
      cases there : set.find table.name with
      | none => simp only [getEntry, there] at found; exact replaced table found
      | some existing =>
          by_cases same : existing.info.isSameVersion table = true
          · simp only [getEntry, there, same, if_true] at found
            exact .inl found
          · simp only [getEntry, there, same] at found
            exact replaced table found

theorem lookup_getEntry {table : Option GlueTableInfo} {entry : CatalogEntry} {key : Text}
    (found : (set.getEntry object name table).1.set.entries.lookup key = some entry) :
    set.entries.lookup key = some entry ∨ table = some entry.info ∧ lower entry.info.name = key :=
  (lookup_getEntry_built found).imp_right fun ⟨held, named, _⟩ => ⟨held, named⟩

/-- The entry a lookup returns is of what Glue holds, or there and of the same version. -/
theorem getEntry_info {table : GlueTableInfo} {entry : CatalogEntry}
    (returned : (set.getEntry object name (some table)).2 = .ok (some entry)) :
    entry.info = table ∨ set.find table.name = some entry ∧ entry.info.isSameVersion table = true := by
  have replaced : (getEntry.replace set object table).2 = .ok (some entry) → entry.info = table := by
    intro there
    unfold getEntry.replace at there
    cases built : buildEntry object table with
    | error => rw [built] at there; cases there
    | ok new => rw [built] at there; cases there; exact buildEntry_info built
  cases there : set.find table.name with
  | none => simp only [getEntry, there] at returned; exact .inl (replaced returned)
  | some existing =>
      by_cases same : existing.info.isSameVersion table = true
      · simp only [getEntry, there, same, if_true] at returned
        cases returned
        exact .inr ⟨rfl, same⟩
      · simp only [getEntry, there, same] at returned
        exact .inl (replaced returned)

theorem lookup_loadTable_built {table : GlueTableInfo} {entry : CatalogEntry} {key : Text}
    (found : (set.loadTable object table).set.entries.lookup key = some entry) :
    set.entries.lookup key = some entry ∨
      entry.info = table ∧ lower table.name = key ∧ buildEntry object table = .ok entry := by
  have loaded : (loadTable.load set object table).set.entries.lookup key = some entry →
      set.entries.lookup key = some entry ∨
        entry.info = table ∧ lower table.name = key ∧ buildEntry object table = .ok entry := by
    intro there
    unfold loadTable.load at there
    cases built : buildEntry object table with
    | error => rw [built] at there; exact .inl there
    | ok new =>
        rw [built] at there
        apply (lookup_emplace there).imp_right
        rintro ⟨rfl, named⟩
        exact ⟨buildEntry_info built, named, rfl⟩
  unfold loadTable at found
  cases there : set.find table.name with
  | none => rw [there] at found; exact loaded found
  | some existing =>
      by_cases same : existing.info.isSameVersion table = true
      · simp only [there, same, if_true] at found
        exact .inl found
      · simp only [there, same] at found
        exact loaded found

theorem lookup_loadTable {table : GlueTableInfo} {entry : CatalogEntry} {key : Text}
    (found : (set.loadTable object table).set.entries.lookup key = some entry) :
    set.entries.lookup key = some entry ∨ entry.info = table ∧ lower table.name = key :=
  (lookup_loadTable_built found).imp_right fun ⟨held, named, _⟩ => ⟨held, named⟩

theorem mem_scanned {entry : CatalogEntry} :
    entry ∈ set.scanned ↔ ∃ name, set.entries.lookup name = some entry := by
  unfold scanned
  constructor
  · intro member
    obtain ⟨⟨name, entry⟩, here, rfl⟩ := List.mem_map.mp member
    exact ⟨name, AList.mem_lookup_iff.mpr here⟩
  · rintro ⟨name, found⟩
    exact List.mem_map.mpr ⟨⟨name, entry⟩, AList.mem_lookup_iff.mp found, rfl⟩

end GlueTableSet

end DuckGlue
