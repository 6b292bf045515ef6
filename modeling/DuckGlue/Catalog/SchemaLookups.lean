import DuckGlue.Catalog.BatchTableLookups

/-! # The schema set of a catalog

The entries of the databases of a catalog, each with the entries of its tables. Threads
look up tables and schemas, and load the lists of them. What Glue holds stays the same,
and its calls are answered from it.
-/

namespace DuckGlue

open StringUtil

structure GlueDatabaseInfo where
  name : Text
  description : Text := []
  locationUri : Text := []
  parameters : Parameters := ∅

/-- A database and its tables. -/
structure HeldDatabase where
  info : GlueDatabaseInfo
  tables : GlueDatabase

/-- The databases Glue holds; their names are in lower case. -/
structure HeldDatabases where
  databases : AList (fun _ : Text => HeldDatabase) := ∅
  named : ∀ key held, databases.lookup key = some held → held.info.name = key ∧ lower key = key

namespace HeldDatabases

variable (glue : HeldDatabases)

def find (name : Text) : Option HeldDatabase := glue.databases.lookup (lower name)

/-- `GlueAPI::GetDatabase` -/
def getDatabase (name : Text) : Option GlueDatabaseInfo := (glue.find name).map (·.info)

/-- `GlueAPI::GetTable`; a database that does not exist has no tables. -/
def getTable (databaseName tableName : Text) : Option GlueTableInfo :=
  (glue.find databaseName).bind (·.tables.getTable tableName)

end HeldDatabases

/-- `GlueSchemaEntry` -/
structure SchemaEntry where
  info : GlueDatabaseInfo
  /-- Only the name is known otherwise. -/
  schemaInfoLoaded : Bool := true
  tables : GlueTableSet := {}

/-- The entries of the databases, by lower case name. -/
structure GlueSchemaSet where
  entries : AList (fun _ : Text => SchemaEntry) := ∅
  isLoaded : Bool := false
  /-- The number of the next table entry. -/
  objects : ℕ := 0
  named : ∀ key entry, entries.lookup key = some entry → lower entry.info.name = key

inductive CatalogType where
  | tableEntry
  | viewEntry
  | other
  deriving Repr, DecidableEq

/-- `CatalogEntryLookup`; a schema by its name. -/
structure CatalogEntryLookup where
  schema : Option Text := none
  entry : Option CatalogEntry := none

namespace SchemaEntry

/-- `CatalogTypeIsSupported` -/
def catalogTypeIsSupported : CatalogType → Bool
  | .tableEntry | .viewEntry => true
  | .other => false

/-- `GlueSchemaEntry::LookupEntry`, with the entry of the schema after it. -/
def lookupEntry (glue : HeldDatabases) (objects : ℕ) (type : CatalogType) (name : Text) (schema : SchemaEntry) :
    SchemaEntry × Except Exception (Option CatalogEntry) :=
  if !catalogTypeIsSupported type then (schema, .ok none)
  else
    -- the lookup name may differ in case from the one Glue knows
    let glueName := match schema.tables.find name with
      | some existing => existing.info.name
      | none => name
    let (change, answer) := schema.tables.getEntry objects glueName (glue.getTable schema.info.name glueName)
    ({ schema with tables := change.set }, answer)

/-- `SetSchemaInfo` -/
def setSchemaInfo (database : GlueDatabaseInfo) (schema : SchemaEntry) : SchemaEntry :=
  if schema.schemaInfoLoaded then schema
  else
    { schema with info := { database with name := schema.info.name }, schemaInfoLoaded := true }

end SchemaEntry

namespace GlueSchemaSet

variable (glue : HeldDatabases) (s : GlueSchemaSet)

def find (name : Text) : Option SchemaEntry := s.entries.lookup (lower name)

/-- The set with the entry under its name. -/
def put (entry : SchemaEntry) : GlueSchemaSet where
  entries := s.entries.insert (lower entry.info.name) entry
  isLoaded := s.isLoaded
  objects := s.objects
  named := by
    intro key other found
    by_cases same : key = lower entry.info.name
    · rw [same, AList.lookup_insert] at found
      cases found
      exact same.symm
    · rw [AList.lookup_insert_ne same] at found
      exact s.named key other found

/-- `emplace`: an entry of the name stays. -/
def emplace (entry : SchemaEntry) : GlueSchemaSet := if (s.find entry.info.name).isSome then s else s.put entry

/-- `GlueSchemaSet::GetEntry`, with the name of the entry. -/
def getEntry (name : Text) : GlueSchemaSet × Option Text :=
  if name = [] then (s, none)
  else
    match s.find name with
    | some entry => (s, some entry.info.name)
    | none =>
        -- not cached, ask Glue for this database directly
        match glue.getDatabase name with
        | none => (s, none)
        | some database => (s.emplace { info := database }, some database.name)

/-- `AddEntryIfAbsent` -/
def addEntryIfAbsent (entry : SchemaEntry) : Option GlueSchemaSet :=
  if (s.find entry.info.name).isSome then none else some (s.put entry)

/-- A lookup in the entry of a schema. -/
def lookupIn (schema : Text) (type : CatalogType) (name : Text) :
    GlueSchemaSet × Except Exception CatalogEntryLookup :=
  match s.find schema with
  | none => (s, .ok {})
  | some entry =>
      let (entry, answer) := entry.lookupEntry glue s.objects type name
      ({ s.put entry with objects := s.objects + 1 }, answer.map fun found => ⟨some entry.info.name, found⟩)

end GlueSchemaSet

/-- What another thread does to the set in one critical section. -/
inductive SchemaAction where
  | getEntry (name : Text)
  /-- It adds the schema it found a table in. -/
  | addFound (schema table : Text)
  | lookupIn (schema : Text) (type : CatalogType) (name : Text)
  /-- `LoadEntries` of the set. -/
  | load
  /-- `LoadEntries` of the tables of a schema. -/
  | loadTables (schema : Text)

namespace GlueSchemaSet

variable (glue : HeldDatabases) (s : GlueSchemaSet)

/-- A schema entry from its name alone. -/
def nameOnly (name : Text) : SchemaEntry := { info := { name := lower name }, schemaInfoLoaded := false }

/-- One database of the list in `LoadEntries`. -/
def loadEntry (database : GlueDatabaseInfo) : GlueSchemaSet :=
  match s.find database.name with
  | some entry => s.put (entry.setSchemaInfo database)
  | none => s.put { info := database }

/-- The tables of a database in `LoadEntries`, each with the number of its entry. -/
def loadTables (objects : ℕ) : List GlueTableInfo → GlueTableSet → GlueTableSet
  | [], set => set
  | table :: tables, set => loadTables (objects + 1) tables (set.loadTable objects table).set

def act : SchemaAction → GlueSchemaSet
  | .getEntry name => (s.getEntry glue name).1
  | .addFound schema table =>
      match (nameOnly schema).lookupEntry glue s.objects .tableEntry table with
      | (entry, .ok (some _)) => { (s.addEntryIfAbsent entry).getD s with objects := s.objects + 1 }
      | _ => s
  | .lookupIn schema type name => (s.lookupIn glue schema type name).1
  | .load =>
      if s.isLoaded then s
      else { (glue.databases.entries.map (·.2.info)).foldl loadEntry s with isLoaded := true }
  | .loadTables schema =>
      match s.find schema, glue.find schema with
      | some entry, some held =>
          if entry.tables.isLoaded then s
          else
            let tables := held.tables.tables.entries.map (·.2)
            let loaded := loadTables s.objects tables entry.tables
            { s.put { entry with tables := { loaded with isLoaded := true } } with objects := s.objects + tables.length }
      | _, _ => s

end GlueSchemaSet

/-! ## Entries of what Glue holds -/

open GlueTableSet

theorem HeldDatabases.find_named {glue : HeldDatabases} {name : Text} {held : HeldDatabase}
    (found : glue.find name = some held) : held.info.name = lower name :=
  (glue.named _ held found).1

theorem HeldDatabases.find_lower {glue : HeldDatabases} {name : Text} : glue.find (lower name) = glue.find name := by
  rw [find, find, lower_lower]

/-- What is held under a name is held under the name it has itself. -/
theorem HeldDatabases.getTable_own {glue : HeldDatabases} {database name : Text} {table : GlueTableInfo}
    (held : glue.getTable database name = some table) :
    lower table.name = lower name ∧ glue.getTable database table.name = some table := by
  obtain ⟨own, found, here⟩ := Option.bind_eq_some_iff.mp held
  have named := own.tables.named _ table here
  refine ⟨named, ?_⟩
  rw [getTable, found, Option.bind_some, GlueDatabase.getTable, named]
  exact here

theorem buildEntry_info_eq (object other : ℕ) (table : GlueTableInfo) :
    (buildEntry object table).map (fun entry => some entry.info) =
      (buildEntry other table).map (fun entry => some entry.info) := by
  unfold buildEntry
  split_ifs
  · rfl
  · cases addColumns [] (table.columns ++ table.partitionKeys) with
    | error => rfl
    | ok => rfl

/-- The definition a lookup of a table gives, or why it can not become an entry. -/
def definition : Option GlueTableInfo → Except Exception (Option GlueTableInfo)
  | none => .ok none
  | some table => (buildEntry 0 table).map fun entry => some entry.info

/-- The entries of a set were built from what Glue holds. -/
def CurrentTables (glue : HeldDatabases) (database : Text) (set : GlueTableSet) : Prop :=
  ∀ key entry, set.entries.lookup key = some entry →
    lower entry.info.name = key ∧ glue.getTable database entry.info.name = some entry.info ∧
      ∃ object, buildEntry object entry.info = .ok entry

namespace CurrentTables

variable {glue : HeldDatabases} {database name : Text} {set : GlueTableSet} {objects : ℕ}

theorem empty : CurrentTables glue database {} := nofun

theorem getEntry (current : CurrentTables glue database set) :
    CurrentTables glue database (set.getEntry objects name (glue.getTable database name)).1.set := by
  intro key entry found
  rcases lookup_getEntry_built found with there | ⟨held, named, built⟩
  · exact current key entry there
  · exact ⟨named, (HeldDatabases.getTable_own held).2, objects, built⟩

theorem loadTable (current : CurrentTables glue database set) {table : GlueTableInfo}
    (held : glue.getTable database table.name = some table) :
    CurrentTables glue database (set.loadTable objects table).set := by
  intro key entry found
  rcases lookup_loadTable_built found with there | ⟨rfl, named, built⟩
  · exact current key entry there
  · exact ⟨named, held, objects, built⟩

theorem loadTables (current : CurrentTables glue database set) {tables : List GlueTableInfo}
    (held : ∀ table ∈ tables, glue.getTable database table.name = some table) :
    CurrentTables glue database (GlueSchemaSet.loadTables objects tables set) := by
  induction tables generalizing objects set with
  | nil => exact current
  | cons table tables ih =>
      obtain ⟨first, rest⟩ := List.forall_mem_cons.mp held
      exact ih (current.loadTable first) rest

/-- A lookup in such a set gives the definition Glue holds. -/
theorem getEntry_definition (current : CurrentTables glue database set) :
    (set.getEntry objects name (glue.getTable database name)).2.map (fun found => found.map (·.info)) =
      definition (glue.getTable database name) := by
  cases held : glue.getTable database name with
  | none => rfl
  | some table =>
      have replaced : (getEntry.replace set objects table).2.map (fun found => found.map (·.info)) =
          definition (some table) := by
        unfold getEntry.replace
        rw [definition, ← buildEntry_info_eq objects]
        cases buildEntry objects table <;> rfl
      cases found : set.find table.name with
      | none =>
          simp only [GlueTableSet.getEntry, found]
          exact replaced
      | some existing =>
          by_cases same : existing.info.isSameVersion table = true
          · simp only [GlueTableSet.getEntry, found, same, if_true]
            obtain ⟨named, own, object, built⟩ := current _ existing found
            -- the entry is of the one definition Glue holds under the name
            have info : existing.info = table := by
              have there := (HeldDatabases.getTable_own held).2
              unfold HeldDatabases.getTable GlueDatabase.getTable at own there
              rw [named] at own
              exact Option.some.inj (own.symm.trans there)
            rw [definition, ← buildEntry_info_eq object, ← info, built]
            rfl
          · simp only [GlueTableSet.getEntry, found, same, Bool.false_eq_true, if_false]
            exact replaced

end CurrentTables

/-- The entry of a schema Glue holds, with entries of the tables it holds. -/
structure CurrentSchema (glue : HeldDatabases) (entry : SchemaEntry) : Prop where
  held : ∃ held, glue.find entry.info.name = some held ∧ held.info.name = entry.info.name
  tables : CurrentTables glue entry.info.name entry.tables

namespace CurrentSchema

variable {glue : HeldDatabases} {entry : SchemaEntry} {objects : ℕ} {type : CatalogType} {name : Text}

theorem ofDatabase {database : GlueDatabaseInfo} (held : glue.getDatabase name = some database) :
    CurrentSchema glue { info := database } := by
  obtain ⟨own, found, rfl⟩ := Option.map_eq_some_iff.mp held
  have named := HeldDatabases.find_named found
  refine ⟨⟨own, ?_, rfl⟩, CurrentTables.empty⟩
  dsimp only
  rw [named, HeldDatabases.find_lower, found]

end CurrentSchema

namespace SchemaEntry

variable {glue : HeldDatabases} {entry : SchemaEntry} {objects : ℕ} {type : CatalogType} {name : Text}

theorem lookupEntry_info : (entry.lookupEntry glue objects type name).1.info = entry.info := by
  unfold lookupEntry
  split_ifs
  · rfl
  · rfl

/-- The name asked for and the one of the entry that is there are the same to Glue. -/
theorem glueName_getTable (current : CurrentTables glue entry.info.name entry.tables) :
    glue.getTable entry.info.name (match entry.tables.find name with
      | some existing => existing.info.name
      | none => name) = glue.getTable entry.info.name name := by
  cases found : entry.tables.find name with
  | none => rfl
  | some existing =>
      obtain ⟨named, _⟩ := current _ existing found
      dsimp only [HeldDatabases.getTable, GlueDatabase.getTable]
      rw [named]

theorem lookupEntry_current (current : CurrentTables glue entry.info.name entry.tables) :
    CurrentTables glue entry.info.name (entry.lookupEntry glue objects type name).1.tables := by
  unfold lookupEntry
  split_ifs
  · exact current
  · exact current.getEntry

theorem lookupEntry_definition (current : CurrentTables glue entry.info.name entry.tables)
    (supported : catalogTypeIsSupported type = true) :
    (entry.lookupEntry glue objects type name).2.map (fun found => found.map (·.info)) =
      definition (glue.getTable entry.info.name name) := by
  have unsupported : ¬(!catalogTypeIsSupported type) = true := by simp [supported]
  rw [lookupEntry, if_neg unsupported, ← glueName_getTable current]
  exact current.getEntry_definition

end SchemaEntry

/-! ## The schema set while other threads act -/

namespace GlueSchemaSet

variable {glue : HeldDatabases} {s : GlueSchemaSet} {key name : Text} {entry : SchemaEntry}

/-- The entry of a name is not there, or is of what Glue holds. -/
def CurrentAt (glue : HeldDatabases) (s : GlueSchemaSet) (key : Text) : Prop :=
  ∀ entry, s.entries.lookup key = some entry → CurrentSchema glue entry

theorem put_current (current : CurrentAt glue s key)
    (new : lower entry.info.name = key → CurrentSchema glue entry) : CurrentAt glue (s.put entry) key := by
  intro other found
  by_cases same : key = lower entry.info.name
  · rw [put, same, AList.lookup_insert] at found
    cases found
    exact new same.symm
  · rw [put, AList.lookup_insert_ne same] at found
    exact current other found

theorem emplace_current (current : CurrentAt glue s key) (new : CurrentSchema glue entry) :
    CurrentAt glue (s.emplace entry) key := by
  unfold emplace
  split_ifs
  · exact current
  · exact put_current current fun _ => new

theorem getEntry_current (current : CurrentAt glue s key) : CurrentAt glue (s.getEntry glue name).1 key := by
  unfold getEntry
  split_ifs
  · exact current
  · cases s.find name with
    | some entry => exact current
    | none =>
        cases held : glue.getDatabase name with
        | none => exact current
        | some database => exact emplace_current current (CurrentSchema.ofDatabase held)

/-- An entry found under its own name. -/
theorem find_key (found : s.find name = some entry) : s.entries.lookup (lower entry.info.name) = some entry := by
  rw [s.named _ entry found]
  exact found

theorem lookupIn_current {schema : Text} {type : CatalogType} (current : CurrentAt glue s key) :
    CurrentAt glue (s.lookupIn glue schema type name).1 key := by
  unfold lookupIn
  cases found : s.find schema with
  | none => exact current
  | some entry =>
      apply put_current current
      intro same
      rw [SchemaEntry.lookupEntry_info] at same
      have own := current entry (same ▸ find_key found)
      refine ⟨?_, ?_⟩
      · rw [SchemaEntry.lookupEntry_info]
        exact own.held
      · rw [SchemaEntry.lookupEntry_info]
        exact SchemaEntry.lookupEntry_current own.tables

/-- A table that is found has a database, so a schema entry of its name alone is of one. -/
theorem nameOnly_current {objects : ℕ} {type : CatalogType} {schema : Text}
    (held : ∃ held, glue.find schema = some held) :
    CurrentSchema glue ((nameOnly schema).lookupEntry glue objects type name).1 := by
  obtain ⟨held, found⟩ := held
  have lowered : (nameOnly schema).info.name = lower schema := rfl
  constructor
  · rw [SchemaEntry.lookupEntry_info, lowered, HeldDatabases.find_lower]
    exact ⟨held, found, HeldDatabases.find_named found⟩
  · rw [SchemaEntry.lookupEntry_info]
    exact SchemaEntry.lookupEntry_current CurrentTables.empty

theorem getTable_nameOnly {schema : Text} :
    glue.getTable (nameOnly schema).info.name name = glue.getTable schema name := by
  unfold HeldDatabases.getTable
  rw [show (nameOnly schema).info.name = lower schema from rfl, HeldDatabases.find_lower]

/-- What the lookup before the schema finds, on the definitions. -/
theorem nameOnly_definition {objects : ℕ} {schema : Text} :
    ((nameOnly schema).lookupEntry glue objects .tableEntry name).2.map (fun found => found.map (·.info)) =
      definition (glue.getTable schema name) := by
  rw [SchemaEntry.lookupEntry_definition CurrentTables.empty rfl, getTable_nameOnly]

theorem held_of_definition {schema : Text} {table : GlueTableInfo}
    (found : definition (glue.getTable schema name) = .ok (some table)) : ∃ held, glue.find schema = some held := by
  cases held : glue.find schema with
  | some own => exact ⟨own, rfl⟩
  | none =>
      rw [HeldDatabases.getTable, held] at found
      cases found

theorem load_current {databases : List GlueDatabaseInfo}
    (held : ∀ database ∈ databases, CurrentSchema glue { info := database }) (current : CurrentAt glue s key) :
    CurrentAt glue (databases.foldl loadEntry s) key := by
  induction databases generalizing s with
  | nil => exact current
  | cons database databases ih =>
      obtain ⟨first, rest⟩ := List.forall_mem_cons.mp held
      apply ih rest
      unfold loadEntry
      cases found : s.find database.name with
      | none => exact put_current current fun _ => first
      | some entry =>
          have named : (entry.setSchemaInfo database).info.name = entry.info.name := by
            unfold SchemaEntry.setSchemaInfo
            split_ifs <;> rfl
          have tables : (entry.setSchemaInfo database).tables = entry.tables := by
            unfold SchemaEntry.setSchemaInfo
            split_ifs <;> rfl
          apply put_current current
          intro same
          rw [named] at same
          have own := current entry (same ▸ find_key found)
          refine ⟨?_, ?_⟩
          · rw [named]
            exact own.held
          · rw [named, tables]
            exact own.tables

/-- No thread adds an entry of anything but what Glue holds. -/
theorem act_current (action : SchemaAction) (current : CurrentAt glue s key) :
    CurrentAt glue (s.act glue action) key := by
  cases action with
  | getEntry name => exact getEntry_current current
  | lookupIn schema type name => exact lookupIn_current current
  | addFound schema table =>
      unfold act
      dsimp only
      split
      · rename_i entry found looked
        have given : ((nameOnly schema).lookupEntry glue s.objects .tableEntry table).2.map (fun found => found.map (·.info)) =
            definition (glue.getTable schema table) := nameOnly_definition
        rw [looked] at given
        have new : CurrentSchema glue ((nameOnly schema).lookupEntry glue s.objects .tableEntry table).1 :=
          nameOnly_current (held_of_definition given.symm)
        rw [looked] at new
        unfold addEntryIfAbsent
        split_ifs
        · exact current
        · exact put_current current fun _ => new
      · exact current
  | load =>
      unfold act
      dsimp only
      split_ifs
      · exact current
      · apply load_current _ current
        intro database member
        obtain ⟨⟨key, held⟩, inside, rfl⟩ := List.mem_map.mp member
        have found := AList.mem_lookup_iff.mpr inside
        obtain ⟨named, lowered⟩ := glue.named key held found
        have own : glue.getDatabase key = some held.info := by
          rw [HeldDatabases.getDatabase, HeldDatabases.find, lowered, found]
          rfl
        exact CurrentSchema.ofDatabase own
  | loadTables schema =>
      unfold act
      dsimp only
      split
      · rename_i entry held found database
        split_ifs
        · exact current
        · apply put_current current
          intro same
          have own := current entry (same ▸ find_key found)
          refine ⟨own.held, own.tables.loadTables ?_⟩
          intro table member
          obtain ⟨⟨tableKey, table⟩, inside, rfl⟩ := List.mem_map.mp member
          have there := AList.mem_lookup_iff.mpr inside
          have named := held.tables.named tableKey table there
          have schemaKey : lower entry.info.name = lower schema := s.named _ entry found
          rw [HeldDatabases.getTable, HeldDatabases.find, schemaKey, ← HeldDatabases.find, database, Option.bind_some,
            GlueDatabase.getTable, named]
          exact there
      · exact current

theorem others_current (others : List SchemaAction) (current : CurrentAt glue s key) :
    CurrentAt glue (others.foldl (act glue) s) key := by
  induction others generalizing s with
  | nil => exact current
  | cons action others ih => exact ih (act_current action current)

/-- The entry of a schema is there just where Glue holds the database. -/
theorem getEntry_name (current : CurrentAt glue s (lower name)) (given : name ≠ []) :
    (s.getEntry glue name).2 = (glue.find name).map (·.info.name) := by
  unfold getEntry
  rw [if_neg given]
  cases found : s.find name with
  | some entry =>
      obtain ⟨held, there, same⟩ := (current entry found).held
      have named := s.named _ entry found
      rw [← HeldDatabases.find_lower, ← named, HeldDatabases.find_lower, there, Option.map_some, same]
  | none =>
      unfold HeldDatabases.getDatabase
      cases glue.find name with
      | none => rfl
      | some held => rfl

end GlueSchemaSet

end DuckGlue
