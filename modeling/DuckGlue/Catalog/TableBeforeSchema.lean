import DuckGlue.Catalog.GlueTransactionCache
import DuckGlue.Catalog.SchemaLookups

/-! # Looking a table up before its schema

A table lookup in a database without a schema entry looks the table up first: a table
that is found is taken to have a database. The lookup asks the metadata cache of its
transaction, and Glue for what is not cached there. Other threads add and remove entries
of the schema set meanwhile, of whatever their own caches give. What Glue holds stays the
same, and its calls are answered from it.
-/

namespace DuckGlue

open StringUtil GlueTableSet

/-- The table definitions the metadata cache of a transaction holds, by `cacheKey`; there
is no cache where the scope is none. -/
abbrev MetadataCache := Option (AList fun _ : Text => GlueTableInfo)

namespace MetadataCache

variable (cache : MetadataCache) (glue : HeldDatabases)

/-- The value the cache holds for a table. -/
def held (databaseName tableName : Text) : Option GlueTableInfo :=
  cache.bind fun values => values.lookup (cacheKey databaseName tableName)

/-- `GlueTransactionCache::GetTable`, loading with GetTable. An absent table is not kept. -/
def getTable (databaseName tableName : Text) : MetadataCache × Option GlueTableInfo :=
  match cache.held databaseName tableName with
  | some table => (cache, some table)
  | none =>
      match glue.getTable databaseName tableName with
      | some table => (cache.map (·.insert (cacheKey databaseName tableName) table), some table)
      | none => (cache, none)

/-- What a lookup resolves a table to: the value of the cache, else what Glue holds. -/
def resolves (databaseName tableName : Text) : Option GlueTableInfo :=
  (cache.held databaseName tableName).or (glue.getTable databaseName tableName)

end MetadataCache

/-- `EntryLookupInfo` -/
structure EntryLookup where
  type : CatalogType
  /-- Has an AT clause. -/
  atClause : Bool := false
  catalog : Text := []
  schema : Text
  name : Text
  /-- The components of the qualified name. -/
  pathSize : ℕ := 3

/-- `TableLookup`, with the result of the lookups that are not skipped. -/
inductive TableLookupOutcome where
  | skipped
  | tableFound (result : CatalogEntryLookup)
  | tableNotFound (result : CatalogEntryLookup)
  | schemaNotFound

/-- The schema set of a catalog and the metadata cache of the transaction that reads it. -/
structure CatalogReader where
  schemas : GlueSchemaSet
  cache : MetadataCache

namespace SchemaEntry

/-- `GlueSchemaEntry::LookupEntry`, with the cache and the entry of the schema after it.
Nothing here looks at the number of an entry. -/
def lookupThrough (glue : HeldDatabases) (cache : MetadataCache) (type : CatalogType) (name : Text) (schema : SchemaEntry) :
    MetadataCache × SchemaEntry × Except Exception (Option CatalogEntry) :=
  if !catalogTypeIsSupported type then (cache, schema, .ok none)
  else
    -- the lookup name may differ in case from the one Glue knows
    let glueName := ((schema.tables.find name).map fun existing => existing.info.name).getD name
    let (cache, table) := cache.getTable glue schema.info.name glueName
    let (change, answer) := schema.tables.getEntry 0 glueName table
    (cache, { schema with tables := change.set }, answer)

/-- `GetSchemaInfo` -/
def getSchemaInfo (glue : HeldDatabases) (schema : SchemaEntry) : Except Exception GlueDatabaseInfo :=
  if schema.schemaInfoLoaded then .ok schema.info
  else
    match glue.getDatabase schema.info.name with
    | none => .error (.catalog ("Glue database \"" ++ schema.info.name ++ "\" no longer exists"))
    | some database => .ok { database with name := schema.info.name }

end SchemaEntry

/-- What another thread does to the schema set in one critical section; `resolved` is
what its own metadata cache gives for a table. -/
inductive ThreadAction where
  | getEntry (name : Text)
  /-- It adds the schema it found a table in. -/
  | addFound (schema table : Text) (resolved : Option GlueTableInfo)
  | lookupIn (schema name : Text) (resolved : Option GlueTableInfo)
  /-- `LoadEntries` of the set. -/
  | load
  /-- `LoadEntries` of the tables of a schema. -/
  | loadTables (schema : Text) (tables : List GlueTableInfo)
  | removeEntry (schema : Text)
  | removeTable (schema table : Text)

namespace GlueSchemaSet

variable (glue : HeldDatabases) (s : GlueSchemaSet)

/-- `RemoveEntry` -/
def removeEntry (name : Text) : GlueSchemaSet where
  entries := s.entries.erase (lower name)
  isLoaded := s.isLoaded
  objects := s.objects
  named := by
    intro key entry found
    by_cases same : key = lower name
    · rw [same, AList.lookup_erase] at found
      cases found
    · rw [AList.lookup_erase_ne same] at found
      exact s.named key entry found

/-- The set after a change of the tables of a schema. -/
def withTables (schema : Text) (change : GlueTableSet → GlueTableSet) : GlueSchemaSet :=
  match s.find schema with
  | none => s
  | some entry => s.put { entry with tables := change entry.tables }

def perform : ThreadAction → GlueSchemaSet
  | .getEntry name => (s.getEntry glue name).1
  | .addFound schema table resolved =>
      match ({} : GlueTableSet).getEntry 0 table resolved with
      | (change, .ok (some _)) => (s.addEntryIfAbsent { nameOnly schema with tables := change.set }).getD s
      | _ => s
  | .lookupIn schema name resolved => s.withTables schema fun tables => (tables.getEntry 0 name resolved).1.set
  | .load =>
      if s.isLoaded then s
      else { (glue.databases.entries.map (·.2.info)).foldl loadEntry s with isLoaded := true }
  | .loadTables schema tables =>
      s.withTables schema fun set => { loadTables 0 tables set with isLoaded := true }
  | .removeEntry schema => s.removeEntry schema
  | .removeTable schema table => s.withTables schema fun tables => (tables.removeEntry table).set

end GlueSchemaSet

namespace CatalogReader

open GlueSchemaSet

variable (glue : HeldDatabases) (s : CatalogReader)

/-- A lookup in the entry of a schema. -/
def lookupIn (schema : Text) (lookup : EntryLookup) : CatalogReader × Except Exception CatalogEntryLookup :=
  match s.schemas.find schema with
  | none => (s, .ok {})
  | some entry =>
      let (cache, entry, answer) := entry.lookupThrough glue s.cache lookup.type lookup.name
      (⟨s.schemas.put entry, cache⟩, answer.map fun found => ⟨some entry.info.name, found⟩)

/-- The lookup of the schema, then in it. -/
def lookupSchemaFirst (lookup : EntryLookup) : CatalogReader × Except Exception CatalogEntryLookup :=
  match s.schemas.getEntry glue lookup.schema with
  | (schemas, none) => (⟨schemas, s.cache⟩, .ok {})
  | (schemas, some schema) => lookupIn glue ⟨schemas, s.cache⟩ schema lookup

/-- The reader after what the other threads did. -/
def meanwhile (others : List ThreadAction) : CatalogReader :=
  { s with schemas := others.foldl (perform glue) s.schemas }

/-- `TryLookupTableBeforeSchema`; the others act between the check and the end. -/
def tryLookupTableBeforeSchema (others : List ThreadAction) (lookup : EntryLookup) :
    CatalogReader × Except Exception TableLookupOutcome :=
  let name := lower lookup.schema
  if (s.schemas.find name).isSome then (s.meanwhile glue others, .ok .skipped)
  else
    let (cache, schema, answer) := (nameOnly lookup.schema).lookupThrough glue s.cache lookup.type lookup.name
    let s := meanwhile glue { s with cache } others
    match answer with
    | .error failed => (s, .error failed)
    | .ok none =>
        -- the table or its schema is missing: GetDatabase tells which
        match s.schemas.getEntry glue name with
        | (schemas, none) => ({ s with schemas }, .ok .schemaNotFound)
        | (schemas, some schema) => ({ s with schemas }, .ok (.tableNotFound ⟨some schema, none⟩))
    | .ok (some entry) =>
        match s.schemas.addEntryIfAbsent schema with
        | none => (s, .ok .skipped)
        | some schemas => ({ s with schemas }, .ok (.tableFound ⟨some schema.info.name, some entry⟩))

/-- The lookups `TryLookupEntryInternal` answers without a schema: nothing is there. -/
def outside (catalogName : Text) (lookup : EntryLookup) : Bool :=
  decide (lookup.pathSize > 3) || decide (lookup.schema = []) ||
    (decide (lookup.catalog ≠ []) && !ciEquals lookup.catalog catalogName)

/-- `TryLookupEntryInternal`; the catalog does not support time travel. -/
def tryLookupEntryInternal (catalogName : Text) (others : List ThreadAction) (lookup : EntryLookup) :
    CatalogReader × Except Exception CatalogEntryLookup :=
  if lookup.atClause then (s.meanwhile glue others, .error (.binder "Catalog type does not support time travel"))
  else if outside catalogName lookup then (s.meanwhile glue others, .ok {})
  else if lookup.type ≠ .tableEntry then (s.meanwhile glue others).lookupSchemaFirst glue lookup
  else
    match s.tryLookupTableBeforeSchema glue others lookup with
    | (s, .error failed) => (s, .error failed)
    | (s, .ok .skipped) => s.lookupSchemaFirst glue lookup
    | (s, .ok (.tableFound result)) => (s, .ok result)
    | (s, .ok (.tableNotFound result)) => (s, .ok result)
    | (s, .ok .schemaNotFound) => (s, .ok {})

/-- The same lookup without the way before the schema. -/
def lookupInOrder (catalogName : Text) (lookup : EntryLookup) : CatalogReader × Except Exception CatalogEntryLookup :=
  if lookup.atClause then (s, .error (.binder "Catalog type does not support time travel"))
  else if outside catalogName lookup then (s, .ok {})
  else s.lookupSchemaFirst glue lookup

end CatalogReader

/-! ## What a lookup resolves -/

theorem cacheKey_congr {database database' name name' : Text} (databases : lower database = lower database')
    (names : lower name = lower name') : cacheKey database name = cacheKey database' name' := by
  unfold cacheKey
  rw [lower_append, lower_append, lower_append, lower_append, databases, names]

namespace MetadataCache

variable {cache : MetadataCache} {glue : HeldDatabases} {database database' name name' : Text}

theorem resolves_congr (databases : lower database = lower database') (names : lower name = lower name') :
    cache.resolves glue database name = cache.resolves glue database' name' := by
  have held : glue.getTable database name = glue.getTable database' name' := by
    unfold HeldDatabases.getTable HeldDatabases.find GlueDatabase.getTable
    rw [databases, names]
  unfold resolves MetadataCache.held
  rw [cacheKey_congr databases names, held]

theorem getTable_resolves : (cache.getTable glue database name).2 = cache.resolves glue database name := by
  unfold getTable resolves
  cases cache.held database name with
  | some table => rfl
  | none => cases glue.getTable database name <;> rfl

/-- A table that was resolved is resolved to the same definition again. -/
theorem resolves_again :
    (cache.getTable glue database name).1.resolves glue database name = cache.resolves glue database name := by
  unfold getTable resolves
  cases cached : cache.held database name with
  | some table => simp [cached]
  | none =>
      cases loaded : glue.getTable database name with
      | none => simp [cached]
      | some table =>
          cases cache with
          | none => rfl
          | some values => simp [MetadataCache.held, AList.lookup_insert]

end MetadataCache

/-- Every entry of the set is kept under its name. -/
def NamedTables (set : GlueTableSet) : Prop :=
  ∀ key entry, set.entries.lookup key = some entry → lower entry.info.name = key

namespace NamedTables

variable {set : GlueTableSet} {object : ℕ} {name : Text}

theorem empty : NamedTables {} := by
  intro key entry found
  cases found

theorem getEntry (named : NamedTables set) (table : Option GlueTableInfo) :
    NamedTables (set.getEntry object name table).1.set := by
  intro key entry found
  cases lookup_getEntry found with
  | inl there => exact named key entry there
  | inr new => exact new.2

theorem loadTables (named : NamedTables set) (tables : List GlueTableInfo) :
    NamedTables (GlueSchemaSet.loadTables object tables set) := by
  induction tables generalizing object set with
  | nil => exact named
  | cons table tables ih =>
      apply ih
      intro key entry found
      cases lookup_loadTable found with
      | inl there => exact named key entry there
      | inr new => exact new.1 ▸ new.2

theorem removeEntry (named : NamedTables set) : NamedTables (set.removeEntry name).set := by
  intro key entry found
  exact named key entry (lookup_retireEntry found)

end NamedTables

namespace SchemaEntry

variable {glue : HeldDatabases} {cache : MetadataCache} {entry : SchemaEntry} {type : CatalogType} {name : Text}

theorem lookupThrough_info : (entry.lookupThrough glue cache type name).2.1.info = entry.info := by
  unfold lookupThrough
  split_ifs <;> rfl

/-- A schema entry that knows no table asks under the name of the lookup. -/
theorem lookupThrough_cache (schema : Text) (supported : catalogTypeIsSupported type = true) :
    ((GlueSchemaSet.nameOnly schema).lookupThrough glue cache type name).1 =
      (cache.getTable glue (lower schema) name).1 := by
  have unsupported : ¬(!catalogTypeIsSupported type) = true := by simp [supported]
  rw [lookupThrough, if_neg unsupported]
  rfl

/-- A lookup compares the entry that is there with what is resolved under the name. -/
theorem lookupThrough_answer (named : NamedTables entry.tables) (supported : catalogTypeIsSupported type = true) :
    (entry.lookupThrough glue cache type name).2.2 =
      (entry.tables.getEntry 0 name (cache.resolves glue entry.info.name name)).2 := by
  have unsupported : ¬(!catalogTypeIsSupported type) = true := by simp [supported]
  have same : lower (((entry.tables.find name).map fun existing => existing.info.name).getD name) = lower name := by
    cases found : entry.tables.find name with
    | none => rfl
    | some existing => exact named _ existing found
  rw [lookupThrough, if_neg unsupported]
  dsimp only
  rw [MetadataCache.getTable_resolves, MetadataCache.resolves_congr rfl same]
  cases cache.resolves glue entry.info.name name <;> rfl

end SchemaEntry

/-! ## A cache of what Glue holds -/

theorem newline_lower {name : Text} (plain : '\n' ∉ name) : '\n' ∉ lower name := by
  intro member
  obtain ⟨c, here, folded⟩ := List.mem_map.mp member
  cases toLower_cases c with
  | inl same =>
      rw [← folded, same] at plain
      exact plain here
  | inr upper =>
      have newline : c.toLower.toNat = 10 := by rw [folded]; rfl
      omega

/-- The names of a database and a table can be read off their key. -/
theorem cacheKey_inj {database database' name name' : Text} (plain : '\n' ∉ database) (plain' : '\n' ∉ database')
    (same : cacheKey database name = cacheKey database' name') :
    lower database = lower database' ∧ lower name = lower name' := by
  have split : ∀ {database name : Text}, '\n' ∉ database →
      (cacheKey database name).takeWhile (· ≠ '\n') = lower database ∧
        (cacheKey database name).dropWhile (· ≠ '\n') = '\n' :: lower name := by
    intro database name plain
    have before : ∀ c ∈ lower database, decide (c ≠ '\n') = true := by
      intro c member
      have differs : c ≠ '\n' := fun newline => newline_lower plain (newline ▸ member)
      simpa using differs
    have key : cacheKey database name = lower database ++ '\n' :: lower name := by
      rw [cacheKey, lower_append, lower_append, List.append_assoc]
      rfl
    rw [key, List.takeWhile_append_of_pos before, List.dropWhile_append_of_pos before]
    simp
  have left := @split database name plain
  have right := @split database' name' plain'
  rw [same] at left
  exact ⟨left.1.symm.trans right.1, List.tail_eq_of_cons_eq (left.2.symm.trans right.2)⟩

namespace MetadataCache

variable {cache : MetadataCache} {glue : HeldDatabases} {database name : Text}

/-- The cache holds what Glue holds. -/
def Current (cache : MetadataCache) (glue : HeldDatabases) : Prop :=
  ∀ database name table, '\n' ∉ database → cache.held database name = some table →
    glue.getTable database name = some table

theorem Current.resolves (current : cache.Current glue) (plain : '\n' ∉ database) :
    cache.resolves glue database name = glue.getTable database name := by
  unfold MetadataCache.resolves
  cases found : cache.held database name with
  | none => rfl
  | some table => exact (current database name table plain found).symm

theorem Current.getTable (current : cache.Current glue) (plain : '\n' ∉ database) :
    (cache.getTable glue database name).1.Current glue := by
  unfold MetadataCache.getTable
  cases cached : cache.held database name with
  | some table => exact current
  | none =>
      cases loaded : glue.getTable database name with
      | none => exact current
      | some table =>
          cases cache with
          | none => exact current
          | some values =>
              intro other named found plain' held
              by_cases same : cacheKey other named = cacheKey database name
              · obtain ⟨databases, names⟩ := cacheKey_inj plain' plain same
                have value : (values.insert (cacheKey database name) table).lookup (cacheKey other named) = some found :=
                  held
                rw [same, AList.lookup_insert] at value
                cases value
                rw [← loaded]
                unfold HeldDatabases.getTable HeldDatabases.find GlueDatabase.getTable
                rw [databases, names]
              · exact current other named found plain' ((AList.lookup_insert_ne same).symm.trans held)

end MetadataCache

/-- Through a cache of what Glue holds a lookup answers as one that asks Glue. -/
theorem SchemaEntry.lookupThrough_current {glue : HeldDatabases} {cache : MetadataCache} {entry : SchemaEntry}
    {type : CatalogType} {name : Text} (current : cache.Current glue) (plain : '\n' ∉ entry.info.name) :
    (entry.lookupThrough glue cache type name).2 = entry.lookupEntry glue 0 type name ∧
      (entry.lookupThrough glue cache type name).1.Current glue := by
  unfold SchemaEntry.lookupThrough SchemaEntry.lookupEntry
  split_ifs
  · exact ⟨rfl, current⟩
  · constructor
    · dsimp only
      rw [MetadataCache.getTable_resolves, current.resolves plain]
      cases entry.tables.find name <;> rfl
    · exact current.getTable plain

/-- An entry from the name alone gets its database when it is asked for it. -/
theorem SchemaEntry.getSchemaInfo_nameOnly {glue : HeldDatabases} {schema : Text} {database : GlueDatabaseInfo}
    (held : glue.getDatabase schema = some database) :
    (GlueSchemaSet.nameOnly schema).getSchemaInfo glue = .ok database := by
  obtain ⟨own, found, rfl⟩ := Option.map_eq_some_iff.mp held
  have there : glue.getDatabase (lower schema) = some own.info := by
    rw [HeldDatabases.getDatabase, HeldDatabases.find_lower]
    exact held
  unfold SchemaEntry.getSchemaInfo GlueSchemaSet.nameOnly
  dsimp only
  rw [if_neg Bool.false_ne_true, there, ← HeldDatabases.find_named found]

/-! ## The schema set while other threads act -/

namespace GlueSchemaSet

variable {glue : HeldDatabases} {s : GlueSchemaSet} {key : Text} {entry : SchemaEntry}

/-- The entry of a schema, if there is one, keeps its tables under their names. -/
def NamedAt (s : GlueSchemaSet) (key : Text) : Prop :=
  ∀ entry, s.entries.lookup key = some entry → NamedTables entry.tables

theorem put_namedAt (at_ : NamedAt s key) (new : lower entry.info.name = key → NamedTables entry.tables) :
    NamedAt (s.put entry) key := by
  intro other found
  by_cases same : key = lower entry.info.name
  · rw [put, same, AList.lookup_insert] at found
    cases found
    exact new same.symm
  · rw [put, AList.lookup_insert_ne same] at found
    exact at_ other found

theorem withTables_namedAt {schema : Text} {change : GlueTableSet → GlueTableSet} (at_ : NamedAt s key)
    (kept : ∀ tables, NamedTables tables → NamedTables (change tables)) : NamedAt (s.withTables schema change) key := by
  unfold withTables
  cases found : s.find schema with
  | none => exact at_
  | some entry => exact put_namedAt at_ fun same => kept _ (at_ entry (same ▸ find_key found))

theorem load_namedAt (databases : List GlueDatabaseInfo) (at_ : NamedAt s key) :
    NamedAt (databases.foldl loadEntry s) key := by
  induction databases generalizing s with
  | nil => exact at_
  | cons database databases ih =>
      apply ih
      unfold loadEntry
      cases found : s.find database.name with
      | none => exact put_namedAt at_ fun _ => NamedTables.empty
      | some entry =>
          have named : (entry.setSchemaInfo database).info.name = entry.info.name := by
            unfold SchemaEntry.setSchemaInfo
            split_ifs <;> rfl
          have tables : (entry.setSchemaInfo database).tables = entry.tables := by
            unfold SchemaEntry.setSchemaInfo
            split_ifs <;> rfl
          apply put_namedAt at_
          intro same
          rw [tables]
          exact at_ entry ((named ▸ same) ▸ find_key found)

theorem getEntry_namedAt {name : Text} (at_ : NamedAt s key) : NamedAt (s.getEntry glue name).1 key := by
  unfold GlueSchemaSet.getEntry
  split_ifs
  · exact at_
  · cases s.find name with
    | some entry => exact at_
    | none =>
        cases glue.getDatabase name with
        | none => exact at_
        | some database =>
            dsimp only [emplace]
            split_ifs
            · exact at_
            · exact put_namedAt at_ fun _ => NamedTables.empty

theorem perform_namedAt (action : ThreadAction) (at_ : NamedAt s key) : NamedAt (s.perform glue action) key := by
  cases action with
  | getEntry name => exact getEntry_namedAt at_
  | addFound schema table resolved =>
      have kept := @NamedTables.getEntry {} 0 table NamedTables.empty resolved
      dsimp only [perform]
      cases looked : ({} : GlueTableSet).getEntry 0 table resolved with
      | mk change answer =>
          rw [looked] at kept
          match answer with
          | .error _ => exact at_
          | .ok none => exact at_
          | .ok (some _) =>
              dsimp only [addEntryIfAbsent]
              split_ifs
              · exact at_
              · exact put_namedAt at_ fun _ => kept
  | lookupIn schema name resolved => exact withTables_namedAt at_ fun _ named => named.getEntry resolved
  | load =>
      dsimp only [perform]
      split_ifs
      · exact at_
      · exact load_namedAt _ at_
  | loadTables schema tables => exact withTables_namedAt at_ fun _ named => named.loadTables tables
  | removeEntry schema =>
      intro entry found
      by_cases same : key = lower schema
      · rw [perform, removeEntry, same, AList.lookup_erase] at found
        cases found
      · rw [perform, removeEntry, AList.lookup_erase_ne same] at found
        exact at_ entry found
  | removeTable schema table => exact withTables_namedAt at_ fun _ named => named.removeEntry

theorem others_namedAt (others : List ThreadAction) (at_ : NamedAt s key) :
    NamedAt (others.foldl (perform glue) s) key := by
  induction others generalizing s with
  | nil => exact at_
  | cons action others ih => exact ih (perform_namedAt action at_)

/-- No two entries of the set are of one schema. -/
def OneEntryPerSchema (s : GlueSchemaSet) : Prop :=
  ∀ key other entry another, s.entries.lookup key = some entry → s.entries.lookup other = some another →
    ciEquals entry.info.name another.info.name = true → key = other ∧ entry = another

theorem oneEntryPerSchema (s : GlueSchemaSet) : s.OneEntryPerSchema := by
  intro key other entry another found there same
  have keys : key = other := by
    rw [← s.named key entry found, ← s.named other another there]
    exact ciEquals_iff.mp same
  subst keys
  exact ⟨rfl, Option.some.inj (found.symm.trans there)⟩

end GlueSchemaSet

/-! ## What both lookups answer -/

namespace CatalogReader

open GlueSchemaSet

variable {glue : HeldDatabases} {s : CatalogReader} {lookup : EntryLookup} {others : List ThreadAction}

/-- The name of the schema and the definition of the table. -/
def definitions (result : CatalogEntryLookup) : Option Text × Option GlueTableInfo :=
  (result.schema, result.entry.map (·.info))

/-- What a lookup of the schema first comes to for a table resolved to `table`. -/
def schemaFirst (glue : HeldDatabases) (schemas : GlueSchemaSet) (table : Option GlueTableInfo) (lookup : EntryLookup) :
    Except Exception (Option Text × Option GlueTableInfo) :=
  match schemas.find lookup.schema with
  | some entry =>
      (entry.tables.getEntry 0 lookup.name table).2.map fun found => (some entry.info.name, found.map (·.info))
  | none =>
      match glue.find lookup.schema with
      | none => .ok (none, none)
      | some held => (definition table).map fun table => (some held.info.name, table)

theorem empty_getEntry (name : Text) (table : Option GlueTableInfo) :
    (({} : GlueTableSet).getEntry 0 name table).2.map (fun found => found.map (·.info)) = definition table := by
  cases table with
  | none => rfl
  | some table =>
      have new : (({} : GlueTableSet).getEntry 0 name (some table)).2 = (getEntry.replace {} 0 table).2 := rfl
      rw [new, getEntry.replace, definition]
      cases buildEntry 0 table <;> rfl

theorem lookupIn_definitions {schema : Text} {entry : SchemaEntry} (table : lookup.type = .tableEntry)
    (found : s.schemas.find schema = some entry) (named : NamedTables entry.tables)
    (same : lower entry.info.name = lower lookup.schema) :
    (s.lookupIn glue schema lookup).2.map definitions =
      (entry.tables.getEntry 0 lookup.name (s.cache.resolves glue lookup.schema lookup.name)).2.map
        fun found => (some entry.info.name, found.map (·.info)) := by
  have answer := @SchemaEntry.lookupThrough_answer glue s.cache entry lookup.type lookup.name named (by rw [table]; rfl)
  have info := @SchemaEntry.lookupThrough_info glue s.cache entry lookup.type lookup.name
  rw [MetadataCache.resolves_congr same rfl] at answer
  unfold lookupIn
  rw [found]
  dsimp only
  rw [answer, info]
  cases (entry.tables.getEntry 0 lookup.name (s.cache.resolves glue lookup.schema lookup.name)).2 <;> rfl

theorem lookupSchemaFirst_definitions (table : lookup.type = .tableEntry) (given : lookup.schema ≠ [])
    (named : NamedAt s.schemas (lower lookup.schema)) :
    (s.lookupSchemaFirst glue lookup).2.map definitions =
      schemaFirst glue s.schemas (s.cache.resolves glue lookup.schema lookup.name) lookup := by
  unfold lookupSchemaFirst schemaFirst GlueSchemaSet.getEntry
  rw [if_neg given]
  cases found : s.schemas.find lookup.schema with
  | some entry =>
      exact lookupIn_definitions table (find_key found) (named entry found) (s.schemas.named _ entry found)
  | none =>
      cases held : glue.find lookup.schema with
      | none =>
          rw [HeldDatabases.getDatabase, held]
          rfl
      | some own =>
          rw [HeldDatabases.getDatabase, held]
          dsimp only [Option.map_some]
          have same := HeldDatabases.find_named held
          have added : (s.schemas.emplace { info := own.info }).find own.info.name = some { info := own.info } := by
            have absent : s.schemas.find own.info.name = none := by
              rw [GlueSchemaSet.find, same, lower_lower]
              exact found
            rw [GlueSchemaSet.emplace, absent]
            exact AList.lookup_insert _
          rw [lookupIn_definitions table added NamedTables.empty (by rw [same, lower_lower])]
          have empty := empty_getEntry lookup.name (s.cache.resolves glue lookup.schema lookup.name)
          rw [← empty]
          cases (({} : GlueTableSet).getEntry 0 lookup.name (s.cache.resolves glue lookup.schema lookup.name)).2 <;> rfl

/-- What a lookup before the schema comes to. -/
def tableFirst (glue : HeldDatabases) (schemas : GlueSchemaSet) (table : Option GlueTableInfo) (lookup : EntryLookup) :
    Except Exception (Option Text × Option GlueTableInfo) :=
  match definition table with
  | .error failed => .error failed
  | .ok none => schemaFirst glue schemas none lookup
  | .ok (some info) =>
      if (schemas.find lookup.schema).isSome then schemaFirst glue schemas table lookup
      else .ok (some (lower lookup.schema), some info)

/-- A database that is asked for by its name in lower case. -/
theorem getEntry_lower (schemas : GlueSchemaSet) (given : lookup.schema ≠ []) :
    (schemas.getEntry glue (lower lookup.schema)).2 =
      match schemas.find lookup.schema with
      | some entry => some entry.info.name
      | none => (glue.find lookup.schema).map (·.info.name) := by
  have some_ : lower lookup.schema ≠ [] := by simpa [lower] using given
  have same : schemas.find (lower lookup.schema) = schemas.find lookup.schema := by
    rw [GlueSchemaSet.find, GlueSchemaSet.find, lower_lower]
  unfold GlueSchemaSet.getEntry
  rw [if_neg some_, same, HeldDatabases.getDatabase, HeldDatabases.find_lower]
  cases schemas.find lookup.schema with
  | some entry => rfl
  | none => cases glue.find lookup.schema <;> rfl

theorem schemaFirst_none (schemas : GlueSchemaSet) :
    schemaFirst glue schemas none lookup = .ok (match schemas.find lookup.schema with
      | some entry => some entry.info.name
      | none => (glue.find lookup.schema).map (·.info.name), none) := by
  unfold schemaFirst
  cases schemas.find lookup.schema with
  | some entry => rfl
  | none => cases glue.find lookup.schema <;> rfl

/-- What the lookup of the table alone resolves it to. -/
theorem lookupAlone_definition (table : lookup.type = .tableEntry) :
    ((nameOnly lookup.schema).lookupThrough glue s.cache lookup.type lookup.name).2.2.map
        (fun found => found.map (·.info)) = definition (s.cache.resolves glue lookup.schema lookup.name) := by
  have supported : SchemaEntry.catalogTypeIsSupported lookup.type = true := by rw [table]; rfl
  have same : s.cache.resolves glue (lower lookup.schema) lookup.name =
      s.cache.resolves glue lookup.schema lookup.name := MetadataCache.resolves_congr (lower_lower _) rfl
  have tables : NamedTables (nameOnly lookup.schema).tables := NamedTables.empty
  rw [SchemaEntry.lookupThrough_answer tables supported, ← same]
  exact empty_getEntry _ _

/-- The transaction goes on with the cache of the lookup of the table alone. -/
theorem lookupAlone_resolves (table : lookup.type = .tableEntry) :
    ((nameOnly lookup.schema).lookupThrough glue s.cache lookup.type lookup.name).1.resolves glue lookup.schema
        lookup.name = s.cache.resolves glue lookup.schema lookup.name := by
  have supported : SchemaEntry.catalogTypeIsSupported lookup.type = true := by rw [table]; rfl
  rw [SchemaEntry.lookupThrough_cache _ supported]
  calc (s.cache.getTable glue (lower lookup.schema) lookup.name).1.resolves glue lookup.schema lookup.name
      = (s.cache.getTable glue (lower lookup.schema) lookup.name).1.resolves glue (lower lookup.schema) lookup.name :=
        MetadataCache.resolves_congr (lower_lower _).symm rfl
    _ = s.cache.resolves glue (lower lookup.schema) lookup.name := MetadataCache.resolves_again
    _ = s.cache.resolves glue lookup.schema lookup.name := MetadataCache.resolves_congr (lower_lower _) rfl

/-- The way before the schema, and the lookup of the schema where it is skipped. -/
theorem tableBeforeSchema_definitions (table : lookup.type = .tableEntry) (given : lookup.schema ≠ [])
    (absent : s.schemas.find lookup.schema = none) :
    (match s.tryLookupTableBeforeSchema glue others lookup with
      | (s, .error failed) => (s, .error failed)
      | (s, .ok .skipped) => s.lookupSchemaFirst glue lookup
      | (s, .ok (.tableFound result)) => (s, .ok result)
      | (s, .ok (.tableNotFound result)) => (s, .ok result)
      | (s, .ok .schemaNotFound) => (s, .ok {}) :
      CatalogReader × Except Exception CatalogEntryLookup).2.map definitions =
      tableFirst glue (s.meanwhile glue others).schemas (s.cache.resolves glue lookup.schema lookup.name) lookup := by
  have unknown : ¬(s.schemas.find (lower lookup.schema)).isSome = true := by
    rw [GlueSchemaSet.find, lower_lower, ← GlueSchemaSet.find, absent]
    simp
  have named : NamedAt (s.meanwhile glue others).schemas (lower lookup.schema) := by
    apply others_namedAt
    intro entry found
    cases absent.symm.trans found
  have alone := @lookupAlone_definition glue s lookup table
  have resolved := @lookupAlone_resolves glue s lookup table
  have info := @SchemaEntry.lookupThrough_info glue s.cache (nameOnly lookup.schema) lookup.type lookup.name
  unfold tryLookupTableBeforeSchema tableFirst
  rw [if_neg unknown]
  generalize (nameOnly lookup.schema).lookupThrough glue s.cache lookup.type lookup.name = looked at *
  obtain ⟨cache, schema, answer⟩ := looked
  -- the others see the set without the schema that was looked into
  have after : (meanwhile glue { s with cache := cache } others).schemas = (s.meanwhile glue others).schemas := rfl
  dsimp only at alone resolved info ⊢
  rw [← alone]
  cases answer with
  | error failed => rfl
  | ok found =>
      cases found with
      | none =>
          have database := @getEntry_lower glue lookup (s.meanwhile glue others).schemas given
          dsimp only [Except.map, Option.map]
          rw [after, schemaFirst_none, ← database]
          generalize (s.meanwhile glue others).schemas.getEntry glue (lower lookup.schema) = loaded
          obtain ⟨schemas, name⟩ := loaded
          cases name <;> rfl
      | some entry =>
          have called : schema.info.name = lower lookup.schema := by
            rw [info]
            rfl
          have there : (s.meanwhile glue others).schemas.find schema.info.name =
              (s.meanwhile glue others).schemas.find lookup.schema := by
            rw [called, GlueSchemaSet.find, GlueSchemaSet.find, lower_lower]
          dsimp only [Except.map, Option.map, addEntryIfAbsent]
          rw [after, there]
          cases (s.meanwhile glue others).schemas.find lookup.schema with
          | none =>
              dsimp only [Option.isSome]
              rw [called]
              rfl
          | some other =>
              have again := @lookupSchemaFirst_definitions glue (meanwhile glue { s with cache := cache } others) lookup
                table given named
              have kept : (meanwhile glue { s with cache := cache } others).cache = cache := rfl
              rw [kept, resolved] at again
              exact again

/-- The lookup before the schema takes a table for the sign of a database: it is in the
metadata cache, but Glue does not hold its database. Or another thread has added the
schema meanwhile, with an entry of the version of a table that can not become one. -/
def FoundAlone (glue : HeldDatabases) (s : CatalogReader) (catalogName : Text) (others : List ThreadAction)
    (lookup : EntryLookup) : Prop :=
  lookup.atClause = false ∧ outside catalogName lookup = false ∧ lookup.type = .tableEntry ∧
    s.schemas.find lookup.schema = none ∧ ∃ table, s.cache.resolves glue lookup.schema lookup.name = some table ∧
      match (s.meanwhile glue others).schemas.find lookup.schema with
      | none => glue.find lookup.schema = none
      | some entry => (buildEntry 0 table).isOk = false ∧
          ∃ existing, entry.tables.find table.name = some existing ∧ existing.info.isSameVersion table = true

/-- A table that can not become an entry is an error, but where an entry of its version is there. -/
theorem getEntry_unreadable {set : GlueTableSet} {table : GlueTableInfo} {failed : Exception}
    (unreadable : buildEntry 0 table = .error failed) :
    (set.getEntry 0 lookup.name (some table)).2 = .error failed ↔
      ¬∃ existing, set.find table.name = some existing ∧ existing.info.isSameVersion table = true := by
  have replaced : (getEntry.replace set 0 table).2 = .error failed := by rw [getEntry.replace, unreadable]
  cases found : set.find table.name with
  | none =>
      simp only [GlueTableSet.getEntry, found, replaced]
      simp
  | some existing =>
      cases same : existing.info.isSameVersion table <;> simp [GlueTableSet.getEntry, found, replaced, same]

theorem tableFirst_eq_iff (schemas : GlueSchemaSet) (table : Option GlueTableInfo) :
    tableFirst glue schemas table lookup = schemaFirst glue schemas table lookup ↔
      ¬∃ found, table = some found ∧
        match schemas.find lookup.schema with
        | none => glue.find lookup.schema = none
        | some entry => (buildEntry 0 found).isOk = false ∧
            ∃ existing, entry.tables.find found.name = some existing ∧ existing.info.isSameVersion found = true := by
  cases table with
  | none => simp [tableFirst, definition]
  | some info =>
      cases built : buildEntry 0 info with
      | error failed =>
          have unreadable : (buildEntry 0 info).isOk = false := by rw [built]; rfl
          have given : definition (some info) = .error failed := by rw [definition, built]; rfl
          unfold tableFirst schemaFirst
          rw [given]
          cases schemas.find lookup.schema with
          | none => cases held : glue.find lookup.schema <;> simp [Except.map]
          | some entry =>
              have failing := @getEntry_unreadable lookup entry.tables info failed built
              dsimp only [Except.map]
              cases answer : (entry.tables.getEntry 0 lookup.name (some info)).2 with
              | error other =>
                  rw [answer] at failing
                  simp only [Option.some.injEq, exists_eq_left', unreadable, true_and]
                  rw [← failing]
                  constructor <;> intro same <;> exact (congrArg _ (Except.error.inj same)).symm
              | ok found =>
                  rw [answer] at failing
                  simp only [Option.some.injEq, exists_eq_left', unreadable, true_and]
                  rw [← failing]
                  simp
      | ok entry =>
          have readable : (buildEntry 0 info).isOk = true := by rw [built]; rfl
          have own := buildEntry_info built
          have given : definition (some info) = .ok (some info) := by
            rw [definition, built, ← own]
            rfl
          unfold tableFirst schemaFirst
          rw [given]
          cases schemas.find lookup.schema with
          | some entry => simp [built, Except.isOk, Except.toBool]
          | none =>
              cases held : glue.find lookup.schema with
              | none => simp
              | some database =>
                  have named := HeldDatabases.find_named held
                  simp [Except.map, named]

/-- Whatever other threads do between its check and its end, the lookup that asks for a
table before its schema answers as one that asks for the schema first, just where it
finds no table alone. -/
theorem tryLookupEntryInternal_agrees_iff (glue : HeldDatabases) (s : CatalogReader) (catalogName : Text)
    (others : List ThreadAction) (lookup : EntryLookup) :
    (s.tryLookupEntryInternal glue catalogName others lookup).2.map definitions =
          ((s.meanwhile glue others).lookupInOrder glue catalogName lookup).2.map definitions ∧
        (s.tryLookupEntryInternal glue catalogName others lookup).1.schemas.OneEntryPerSchema ↔
      ¬FoundAlone glue s catalogName others lookup := by
  rw [and_iff_left (oneEntryPerSchema _)]
  unfold tryLookupEntryInternal lookupInOrder FoundAlone
  cases atClause : lookup.atClause with
  | true => simp
  | false =>
      cases out : outside catalogName lookup with
      | true => simp
      | false =>
          have given : lookup.schema ≠ [] := by
            intro empty
            simp [outside, empty] at out
          by_cases table : lookup.type = .tableEntry
          · simp only [Bool.false_eq_true, if_false, ne_eq, table, not_true, true_and]
            cases cached : s.schemas.find lookup.schema with
            | some entry =>
                have known : (s.schemas.find (lower lookup.schema)).isSome = true := by
                  rw [GlueSchemaSet.find, lower_lower, ← GlueSchemaSet.find, cached]
                  rfl
                have skipped : s.tryLookupTableBeforeSchema glue others lookup = (s.meanwhile glue others, .ok .skipped) :=
                  if_pos known
                rw [skipped]
                simp
            | none =>
                have named : NamedAt (s.meanwhile glue others).schemas (lower lookup.schema) := by
                  apply others_namedAt
                  intro entry found
                  cases cached.symm.trans found
                rw [tableBeforeSchema_definitions table given cached, lookupSchemaFirst_definitions table given named]
                have kept : (s.meanwhile glue others).cache = s.cache := rfl
                have same := @tableFirst_eq_iff glue lookup (s.meanwhile glue others).schemas
                  (s.cache.resolves glue lookup.schema lookup.name)
                simpa [kept] using same
          · simp [table]

theorem noDatabases_named (key : Text) (held : HeldDatabase)
    (found : (∅ : AList fun _ : Text => HeldDatabase).lookup key = some held) : held.info.name = key ∧ lower key = key := by
  cases found

theorem noSchemas_named (key : Text) (entry : SchemaEntry)
    (found : (∅ : AList fun _ : Text => SchemaEntry).lookup key = some entry) : lower entry.info.name = key := by
  cases found

/-- The one database is dropped, and its entry is gone. -/
def noDatabases : HeldDatabases where
  named := noDatabases_named

/-- The transaction has looked a table of the database up before. -/
def droppedReader : CatalogReader where
  schemas := { named := noSchemas_named }
  cache := some (AList.insert (cacheKey "sales".toList "orders".toList) { name := "orders".toList } ∅)

def ordersLookup : EntryLookup := { type := .tableEntry, schema := "sales".toList, name := "orders".toList }

/-- The lookup before the schema finds the table, where the schema is not found. -/
theorem tryLookupEntryInternal_droppedDatabase :
    ¬∀ (glue : HeldDatabases) (s : CatalogReader) (catalogName : Text) (others : List ThreadAction)
      (lookup : EntryLookup),
        (s.tryLookupEntryInternal glue catalogName others lookup).2.map definitions =
            ((s.meanwhile glue others).lookupInOrder glue catalogName lookup).2.map definitions ∧
          (s.tryLookupEntryInternal glue catalogName others lookup).1.schemas.OneEntryPerSchema := by
  intro agrees
  have same := (agrees noDatabases droppedReader "glue".toList [] ordersLookup).1
  have found := congrArg (fun answer => answer.toOption.map (·.1)) same
  revert found
  decide +kernel

end CatalogReader

end DuckGlue
