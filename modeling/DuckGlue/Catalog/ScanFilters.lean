import DuckGlue.Catalog.SchemaLookups
import DuckGlue.Lib.Expression
import Mathlib.Data.List.Perm.Basic

/-! # Name filters of catalog scans

A scan of the schemas of a catalog or of the tables of a schema is given the filter on
the name column of its result. A filter that compares the name with a constant is
answered by one lookup; any other scan loads the whole list. Either way the caller
filters what it is given.
-/

namespace DuckGlue

open StringUtil

inductive FilterOp (Function : Type) where
  | equal
  | lower
  | other (function : Function)

/-- A value that is not NULL. -/
inductive FilterValue (Literal : Type) where
  | varchar (text : Text)
  | boolean (value : Bool)
  | other (literal : Literal)

/-- A filter has one column, the name. -/
abbrev NameFilter (Function Literal : Type) := Expression Unit (FilterOp Function) (FilterValue Literal)

/-- The functions of SQL that filters call. -/
structure SQLFunctions (Function Literal : Type) where
  lower : Text → Text
  /-- Every other function, and these two for arguments that are not texts. -/
  call : FilterOp Function → List (Option (FilterValue Literal)) → Option (FilterValue Literal)

/-- The filter a scan is given. -/
structure ScanFilter (Entry Function Literal : Type) where
  oid : Option (Entry → Bool) := none
  name : Option (NameFilter Function Literal) := none

/-- The databases Glue holds. It stores the names of databases and tables in lower case. -/
structure LowerCaseDatabases (sqlLower : Text → Text) extends HeldDatabases where
  databaseNames : ∀ key held, databases.lookup key = some held → key ≠ [] ∧ sqlLower key = key
  tableNames : ∀ key held, databases.lookup key = some held →
    ∀ tableKey table, held.tables.tables.lookup tableKey = some table → sqlLower table.name = table.name

variable {Entry Key Function Literal : Type}

namespace SQLFunctions

variable (sql : SQLFunctions Function Literal)

def apply : FilterOp Function → List (Option (FilterValue Literal)) → Option (FilterValue Literal)
  | .equal, [some (.varchar left), some (.varchar right)] => some (.boolean (decide (left = right)))
  | .lower, [some (.varchar text)] => some (.varchar (sql.lower text))
  | op, arguments => sql.call op arguments

/-- Whether the filter is true for a name; NULL is not. -/
def accepts (filter : NameFilter Function Literal) (name : Text) : Bool :=
  match filter.evaluate (fun _ => some (.varchar name)) sql.apply with
  | some (.boolean value) => value
  | _ => false

end SQLFunctions

namespace ScanFilter

/-- `IsNameOperand`: the name column, or `lower()` of it. -/
def isNameOperand : NameFilter Function Literal → Bool
  | .columnRef _ => true
  | .call .lower [.columnRef _] => true
  | _ => false

/-- The value of a constant of type VARCHAR. -/
def varcharConstant : Option (FilterValue Literal) → Option Text
  | some (.varchar text) => some text
  | _ => none

/-- `TryGetNameEquality` -/
def tryGetNameEquality : NameFilter Function Literal → Option Text
  | .call .equal [left, .constant value] => if isNameOperand left then varcharConstant value else none
  | .call .equal [.constant value, right] => if isNameOperand right then varcharConstant value else none
  | _ => none

variable (filter : ScanFilter Entry Function Literal)

/-- The name a scan looks up instead of loading the list. -/
def lookedUp : Option Text := if filter.oid.isSome then none else filter.name.bind tryGetNameEquality

/-- Whether an entry satisfies the filter. -/
def satisfied (sql : SQLFunctions Function Literal) (nameOf : Entry → Text) (entry : Entry) : Bool :=
  filter.oid.all (· entry) && filter.name.all fun name => sql.accepts name (nameOf entry)

end ScanFilter

namespace GlueSchemaSet

variable (glue : HeldDatabases) (s : GlueSchemaSet)

/-- The set after ATTACH. -/
def attached : GlueSchemaSet where
  named := fun key _ found => absurd (found.symm.trans (AList.lookup_empty key)) nofun

/-- `GlueSchemaSet::Scan`; an entry by its name. -/
def scan : List Text := (s.act glue .load).entries.entries.map (·.2.info.name)

/-- `GetSchemasForScan` -/
def getSchemasForScan (filter : ScanFilter Text Function Literal) : List Text :=
  match filter.lookedUp with
  | none => s.scan glue
  | some name => (s.getEntry glue name).2.toList

/-- `GlueTableSet::Scan` of the tables of a schema. -/
def scanTables (schema : Text) : List CatalogEntry :=
  match (s.act glue (.loadTables schema)).find schema with
  | none => []
  | some entry => entry.tables.scanned

/-- `GlueSchemaEntry::Scan` without a filter. -/
def scanType (schema : Text) (type : CatalogType) : List CatalogEntry :=
  if !SchemaEntry.catalogTypeIsSupported type then [] else s.scanTables glue schema

/-- `GlueSchemaEntry::Scan`; tables and views share the set. -/
def scanSchema (schema : Text) (type : CatalogType) (filter : ScanFilter CatalogEntry Function Literal) :
    Except Exception (List CatalogEntry) :=
  if !SchemaEntry.catalogTypeIsSupported type then .ok (s.scanType glue schema type)
  else
    match filter.lookedUp with
    | none => .ok (s.scanType glue schema type)
    | some name => (s.lookupIn glue schema type name).2.map (·.entry.toList)

end GlueSchemaSet

/-- A scan with a filter and one without give the same entries that satisfy the filter, and
one throws only if the other does. -/
def ScanAgrees (satisfied : Entry → Bool) (key : Entry → Key) : Except Exception (List Entry) → List Entry → Prop
  | .ok filtered, all => ((filtered.filter satisfied).map key).Perm ((all.filter satisfied).map key)
  | .error _, _ => False

/-! ## The names a filter accepts -/

namespace ScanFilter

variable {sql : SQLFunctions Function Literal} {name other : Text} {filter operand : NameFilter Function Literal}

theorem evaluate_nameOperand (named : isNameOperand operand = true) (lowered : sql.lower name = name) :
    operand.evaluate (fun _ => some (.varchar name)) sql.apply = some (.varchar name) := by
  unfold isNameOperand at named
  split at named
  · rfl
  · simp only [Expression.evaluate, Expression.evaluateChildren, SQLFunctions.apply, lowered]
  · cases named

theorem varcharConstant_some {value : Option (FilterValue Literal)} (found : varcharConstant value = some name) :
    value = some (.varchar name) := by
  unfold varcharConstant at found
  split at found
  · cases found
    rfl
  · cases found

/-- A filter that gives a name accepts no other name in lower case. -/
theorem accepts_only (given : tryGetNameEquality filter = some name) (lowered : sql.lower other = other)
    (accepted : sql.accepts filter other = true) : other = name := by
  unfold tryGetNameEquality at given
  split at given
  · rename_i left value
    split_ifs at given with named
    cases varcharConstant_some given
    simpa [SQLFunctions.accepts, Expression.evaluate, Expression.evaluateChildren, evaluate_nameOperand named lowered,
      SQLFunctions.apply] using accepted
  · rename_i value right
    split_ifs at given with named
    cases varcharConstant_some given
    have same : name = other := by
      simpa [SQLFunctions.accepts, Expression.evaluate, Expression.evaluateChildren,
        evaluate_nameOperand named lowered, SQLFunctions.apply] using accepted
    exact same.symm
  · cases given

/-- A scan that looks a name up has no filter but the one on the name. -/
theorem satisfied_lookedUp {filter : ScanFilter Entry Function Literal} {nameOf : Entry → Text}
    (given : filter.lookedUp = some name) :
    filter.satisfied sql nameOf = fun entry => filter.name.all fun equality => sql.accepts equality (nameOf entry) := by
  unfold lookedUp at given
  cases own : filter.oid with
  | some oid =>
      rw [own] at given
      cases given
  | none =>
      funext entry
      rw [satisfied, own, Option.all_none, Bool.true_and]

theorem eq_lookedUp {filter : ScanFilter Entry Function Literal} (given : filter.lookedUp = some name)
    (lowered : sql.lower other = other)
    (holds : (filter.name.all fun equality => sql.accepts equality other) = true) : other = name := by
  unfold lookedUp at given
  split_ifs at given
  obtain ⟨equality, there, recognised⟩ := Option.bind_eq_some_iff.mp given
  rw [there, Option.all_some] at holds
  exact accepts_only recognised lowered holds

end ScanFilter

/-! ## Loaded sets -/

open GlueTableSet

namespace GlueTableSet

variable {set : GlueTableSet} {object : ℕ} {name : Text}

theorem getEntry_isLoaded {table : Option GlueTableInfo} :
    (set.getEntry object name table).1.set.isLoaded = set.isLoaded := by
  have replaced : ∀ one, (getEntry.replace set object one).1.set.isLoaded = set.isLoaded := by
    intro one
    unfold getEntry.replace
    cases buildEntry object one <;> rfl
  cases table with
  | none => rfl
  | some table =>
      cases found : set.find table.name with
      | none =>
          simp only [getEntry, found]
          exact replaced table
      | some existing =>
          simp only [getEntry, found]
          split_ifs
          · rfl
          · exact replaced table

theorem find_erase_ne {other : Text} (differ : lower other ≠ lower name) : (set.erase name).find other = set.find other :=
  AList.lookup_erase_ne differ

end GlueTableSet

/-- Every table of a database that can become an entry has one. -/
def CompleteTables (glue : HeldDatabases) (database : Text) (set : GlueTableSet) : Prop :=
  ∀ name table, glue.getTable database name = some table → (buildEntry 0 table).isOk = true →
    (set.find name).isSome = true

namespace CompleteTables

variable {glue : HeldDatabases} {database name : Text} {set : GlueTableSet} {objects : ℕ}

theorem getTable_congr {other : Text} (same : lower other = lower name) :
    glue.getTable database other = glue.getTable database name := by
  unfold HeldDatabases.getTable GlueDatabase.getTable
  rw [same]

theorem getEntry (complete : CompleteTables glue database set) :
    CompleteTables glue database (set.getEntry objects name (glue.getTable database name)).1.set := by
  intro other table held built
  have there := complete other table held built
  cases asked : glue.getTable database name with
  | none =>
      have differ : lower other ≠ lower name := by
        intro same
        rw [getTable_congr same, asked] at held
        cases held
      rw [GlueTableSet.getEntry, retireEntry, find_erase_ne differ]
      exact there
  | some one =>
      have replaced : ((getEntry.replace set objects one).1.set.find other).isSome = true := by
        unfold getEntry.replace
        cases made : buildEntry objects one with
        | ok entry => exact (find_emplace entry one.name other).mpr (.inl there)
        | error failed =>
            have differ : lower other ≠ lower one.name := by
              intro same
              rw [(HeldDatabases.getTable_own asked).1] at same
              rw [getTable_congr same, asked] at held
              cases held
              rw [buildEntry_isOk 0 objects, made] at built
              cases built
            rw [retireEntry, find_erase_ne differ]
            exact there
      cases found : set.find one.name with
      | none =>
          simp only [GlueTableSet.getEntry, found]
          exact replaced
      | some existing =>
          simp only [GlueTableSet.getEntry, found]
          split_ifs
          · exact there
          · exact replaced

/-- The loop over the tables of the list. -/
theorem find_loadTables {tables : List GlueTableInfo} :
    ((GlueSchemaSet.loadTables objects tables set).find name).isSome = true ↔
      (set.find name).isSome = true ∨
        ∃ table ∈ tables, lower name = lower table.name ∧ (buildEntry 0 table).isOk = true := by
  induction tables generalizing objects set with
  | nil => simp [GlueSchemaSet.loadTables]
  | cons table tables ih =>
      rw [GlueSchemaSet.loadTables, ih, find_loadTable, buildEntry_isOk objects 0, List.exists_mem_cons_iff, or_assoc]

theorem loadTables {held : HeldDatabase} (found : glue.find database = some held) :
    CompleteTables glue database
      (GlueSchemaSet.loadTables objects (held.tables.tables.entries.map (·.2)) set) := by
  intro name table there built
  rw [find_loadTables]
  right
  refine ⟨table, ?_, ?_, built⟩
  · rw [HeldDatabases.getTable, found] at there
    exact List.mem_map.mpr ⟨_, AList.mem_lookup_iff.mp there, rfl⟩
  · exact (HeldDatabases.getTable_own there).1.symm

end CompleteTables

namespace GlueSchemaSet

variable {glue : HeldDatabases} {s : GlueSchemaSet} {name : Text} {entry : SchemaEntry}

theorem find_put : ((s.put entry).find name).isSome = true ↔
    (s.find name).isSome = true ∨ lower name = lower entry.info.name := by
  unfold find put
  by_cases same : lower name = lower entry.info.name
  · rw [same, AList.lookup_insert]
    simp
  · rw [AList.lookup_insert_ne same]
    simp [same]

/-- A set that was loaded has an entry of every database, and the set of its tables, if that was
loaded, one of every table that can become one. -/
structure Complete (glue : HeldDatabases) (s : GlueSchemaSet) : Prop where
  schemas : s.isLoaded = true → ∀ name held, glue.find name = some held → (s.find name).isSome = true
  tables : ∀ key entry, s.entries.lookup key = some entry → entry.tables.isLoaded = true →
    CompleteTables glue entry.info.name entry.tables

namespace Complete

theorem attached : Complete glue attached where
  schemas := nofun
  tables := fun key _ found => absurd (found.symm.trans (AList.lookup_empty key)) nofun

theorem put (complete : Complete glue s)
    (new : entry.tables.isLoaded = true → CompleteTables glue entry.info.name entry.tables) :
    Complete glue (s.put entry) := by
  constructor
  · intro loaded name held found
    exact find_put.mpr (.inl (complete.schemas loaded name held found))
  · intro key other found
    by_cases same : key = lower entry.info.name
    · rw [GlueSchemaSet.put, same, AList.lookup_insert] at found
      cases found
      exact new
    · rw [GlueSchemaSet.put, AList.lookup_insert_ne same] at found
      exact complete.tables key other found

theorem getEntry (complete : Complete glue s) : Complete glue (s.getEntry glue name).1 := by
  unfold GlueSchemaSet.getEntry
  split_ifs
  · exact complete
  · cases s.find name with
    | some entry => exact complete
    | none =>
        cases glue.getDatabase name with
        | none => exact complete
        | some database =>
            dsimp only [emplace]
            split_ifs
            · exact complete
            · exact complete.put nofun

theorem lookupEntry {objects : ℕ} {type : CatalogType}
    (complete : entry.tables.isLoaded = true → CompleteTables glue entry.info.name entry.tables)
    (loaded : (entry.lookupEntry glue objects type name).1.tables.isLoaded = true) :
    CompleteTables glue (entry.lookupEntry glue objects type name).1.info.name
      (entry.lookupEntry glue objects type name).1.tables := by
  rw [SchemaEntry.lookupEntry_info]
  unfold SchemaEntry.lookupEntry at loaded ⊢
  split_ifs at loaded ⊢
  · exact complete loaded
  · exact (complete (getEntry_isLoaded.symm.trans loaded)).getEntry

theorem lookupIn {schema : Text} {type : CatalogType} (complete : Complete glue s) :
    Complete glue (s.lookupIn glue schema type name).1 := by
  unfold GlueSchemaSet.lookupIn
  cases found : s.find schema with
  | none => exact complete
  | some entry =>
      have kept : Complete glue (s.put (entry.lookupEntry glue s.objects type name).1) :=
        complete.put (lookupEntry (complete.tables _ entry found))
      exact ⟨kept.schemas, kept.tables⟩

theorem loadEntry (complete : Complete glue s) (database : GlueDatabaseInfo) :
    Complete glue (s.loadEntry database) := by
  unfold GlueSchemaSet.loadEntry
  cases found : s.find database.name with
  | none => exact complete.put nofun
  | some entry =>
      apply complete.put
      have own := complete.tables _ entry found
      unfold SchemaEntry.setSchemaInfo
      split_ifs
      · exact own
      · exact own

theorem find_loadEntry (database : GlueDatabaseInfo) : ((s.loadEntry database).find name).isSome = true ↔
    (s.find name).isSome = true ∨ lower name = lower database.name := by
  unfold GlueSchemaSet.loadEntry
  cases found : s.find database.name with
  | none => exact find_put
  | some entry =>
      have named : (entry.setSchemaInfo database).info.name = entry.info.name := by
        unfold SchemaEntry.setSchemaInfo
        split_ifs
        · rfl
        · rfl
      rw [find_put, named, s.named _ entry found]

theorem find_load {databases : List GlueDatabaseInfo} :
    ((databases.foldl GlueSchemaSet.loadEntry s).find name).isSome = true ↔
      (s.find name).isSome = true ∨ ∃ database ∈ databases, lower name = lower database.name := by
  induction databases generalizing s with
  | nil => simp
  | cons database databases ih => rw [List.foldl_cons, ih, find_loadEntry, List.exists_mem_cons_iff, or_assoc]

theorem load {databases : List GlueDatabaseInfo} (complete : Complete glue s) :
    Complete glue (databases.foldl GlueSchemaSet.loadEntry s) := by
  induction databases generalizing s with
  | nil => exact complete
  | cons database databases ih => exact ih (complete.loadEntry database)

/-- Every database that is held has an entry once the list is loaded. -/
theorem find_act_load (complete : Complete glue s) {held : HeldDatabase} (found : glue.find name = some held) :
    ((s.act glue .load).find name).isSome = true := by
  unfold act
  dsimp only
  split_ifs with loaded
  · exact complete.schemas loaded name held found
  · have listed : held.info ∈ glue.databases.entries.map (·.2.info) :=
      List.mem_map.mpr ⟨_, AList.mem_lookup_iff.mp found, rfl⟩
    have named : lower name = lower held.info.name := by rw [HeldDatabases.find_named found, lower_lower]
    exact find_load.mpr (.inr ⟨_, listed, named⟩)

/-- No thread makes a loaded set incomplete. -/
theorem act (complete : Complete glue s) (action : SchemaAction) : Complete glue (s.act glue action) := by
  cases action with
  | getEntry name => exact complete.getEntry
  | lookupIn schema type name => exact complete.lookupIn
  | addFound schema table =>
      unfold GlueSchemaSet.act
      dsimp only
      split
      · rename_i entry found looked
        have fresh : entry.tables.isLoaded = false := by
          have kept : ((nameOnly schema).lookupEntry glue s.objects .tableEntry table).1.tables.isLoaded = false :=
            getEntry_isLoaded
          rwa [looked] at kept
        unfold addEntryIfAbsent
        split_ifs
        · exact ⟨complete.schemas, complete.tables⟩
        · have kept : Complete glue (s.put entry) := complete.put fun loaded => by
            rw [fresh] at loaded
            cases loaded
          exact ⟨kept.schemas, kept.tables⟩
      · exact complete
  | load =>
      constructor
      · intro _ name held found
        exact complete.find_act_load found
      · unfold GlueSchemaSet.act
        dsimp only
        split_ifs
        · exact complete.tables
        · exact complete.load.tables
  | loadTables schema =>
      unfold GlueSchemaSet.act
      dsimp only
      split
      · rename_i entry held found database
        split_ifs
        · exact complete
        · have named : glue.find entry.info.name = some held := by
            rw [← HeldDatabases.find_lower, s.named _ entry found, HeldDatabases.find_lower]
            exact database
          let tables := loadTables s.objects (held.tables.tables.entries.map (·.2)) entry.tables
          have kept : Complete glue (s.put { entry with tables := { tables with isLoaded := true } }) :=
            complete.put fun _ => CompleteTables.loadTables named
          exact ⟨kept.schemas, kept.tables⟩
      · exact complete

/-- After whatever was done since ATTACH. -/
theorem since_attach (actions : List SchemaAction) :
    Complete glue (actions.foldl (GlueSchemaSet.act glue) GlueSchemaSet.attached) := by
  have all : ∀ {s : GlueSchemaSet}, Complete glue s → Complete glue (actions.foldl (GlueSchemaSet.act glue) s) := by
    induction actions with
    | nil => exact fun complete => complete
    | cons action actions ih => exact fun complete => ih (complete.act action)
  exact all Complete.attached

end Complete

theorem current_since_attach (actions : List SchemaAction) (key : Text) :
    CurrentAt glue (actions.foldl (act glue) attached) key :=
  others_current actions fun _ found => absurd (found.symm.trans (AList.lookup_empty key)) nofun

end GlueSchemaSet

/-! ## What the scans give -/

theorem lookup_singleton {Value : Type} {key other : Text} {value found : Value}
    (there : (AList.singleton other value : AList fun _ : Text => Value).lookup key = some found) :
    other = key ∧ value = found := by
  have member := AList.mem_lookup_iff.mp there
  rw [AList.singleton_entries, List.mem_singleton, Sigma.mk.injEq] at member
  exact ⟨member.1.symm, (eq_of_heq member.2).symm⟩

/-- A lookup agrees with a list that has what it finds, and nothing else that satisfies the filter. -/
theorem ScanAgrees.of_lookup {found : Option Entry} {all : List Entry} {key : Entry → Key} {holds : Key → Bool}
    (distinct : (all.map key).Nodup) (listed : ∀ one, found.map key = some one → one ∈ all.map key)
    (only : ∀ one ∈ all.map key, holds one = true → found.map key = some one) :
    ScanAgrees (fun entry => holds (key entry)) key (.ok found.toList) all := by
  have mapped : ∀ entries : List Entry,
      (entries.filter fun entry => holds (key entry)).map key = (entries.map key).filter holds :=
    fun entries => List.filter_map.symm
  have single : found.toList.map key = (found.map key).toList := by cases found <;> rfl
  unfold ScanAgrees
  dsimp only
  rw [mapped, mapped, single]
  apply (List.perm_ext_iff_of_nodup _ (distinct.filter _)).mpr
  · intro one
    simp only [List.mem_filter, Option.mem_toList]
    constructor
    · intro ⟨given, holds⟩
      exact ⟨listed one given, holds⟩
    · intro ⟨member, holds⟩
      exact ⟨only one member holds, holds⟩
  · cases found with
    | none => simp
    | some entry => exact (List.nodup_singleton _).filter _

theorem nodup_entries {Value Name : Type} {entries : AList (fun _ : Text => Value)} {nameOf : Value → Name}
    {keyOf : Name → Text} (named : ∀ key value, entries.lookup key = some value → keyOf (nameOf value) = key) :
    (entries.entries.map fun one => nameOf one.2).Nodup := by
  have keys : (entries.entries.map fun one => nameOf one.2).map keyOf = entries.keys := by
    rw [List.map_map]
    apply List.map_congr_left
    intro one member
    exact named one.1 one.2 (AList.mem_lookup_iff.mpr member)
  apply List.Nodup.of_map keyOf
  rw [keys]
  exact entries.keys_nodup

namespace GlueSchemaSet

variable {glue : HeldDatabases} {s : GlueSchemaSet} {name schema : Text} {entry : SchemaEntry}

theorem mem_scan (current : ∀ key, CurrentAt glue s key) (complete : Complete glue s) :
    name ∈ s.scan glue ↔ ∃ held, glue.find name = some held ∧ held.info.name = name := by
  unfold scan
  constructor
  · intro member
    obtain ⟨⟨key, entry⟩, inside, rfl⟩ := List.mem_map.mp member
    exact (act_current .load (current key) entry (AList.mem_lookup_iff.mpr inside)).held
  · intro ⟨held, found, named⟩
    obtain ⟨entry, there⟩ := Option.isSome_iff_exists.mp (complete.find_act_load found)
    obtain ⟨own, same, ownName⟩ := (act_current .load (current _) entry there).held
    have lowered : lower entry.info.name = lower name := (s.act glue .load).named _ entry there
    rw [← HeldDatabases.find_lower, lowered, HeldDatabases.find_lower, found] at same
    cases same
    refine List.mem_map.mpr ⟨_, AList.mem_lookup_iff.mp there, ?_⟩
    rw [← ownName, named]

theorem nodup_scan : (s.scan glue).Nodup := nodup_entries (s.act glue .load).named

/-- The schemas a filter accepts are looked up under its name or listed. -/
theorem getSchemasForScan_agrees {sql : SQLFunctions Function Literal} {catalog : LowerCaseDatabases sql.lower}
    (current : ∀ key, CurrentAt catalog.toHeldDatabases s key) (complete : Complete catalog.toHeldDatabases s)
    (filter : ScanFilter Text Function Literal) :
    ScanAgrees (filter.satisfied sql id) id (.ok (s.getSchemasForScan catalog.toHeldDatabases filter))
      (s.scan catalog.toHeldDatabases) := by
  unfold getSchemasForScan
  cases given : filter.lookedUp with
  | none => exact .refl _
  | some asked =>
      rw [ScanFilter.satisfied_lookedUp given]
      apply @ScanAgrees.of_lookup _ _ (s.getEntry catalog.toHeldDatabases asked).2 _ id
        fun name => filter.name.all fun equality => sql.accepts equality name
      · rw [List.map_id]
        exact nodup_scan
      · intro name found
        rw [Option.map_id_fun, id] at found
        rw [List.map_id, mem_scan current complete]
        by_cases empty : asked = []
        · rw [getEntry, if_pos empty] at found
          cases found
        · rw [getEntry_name (current _) empty] at found
          obtain ⟨held, there, named⟩ := Option.map_eq_some_iff.mp found
          have own := HeldDatabases.find_named there
          refine ⟨held, ?_, named⟩
          rw [← named, own, HeldDatabases.find_lower]
          exact there
      · intro name member holds
        rw [List.map_id, mem_scan current complete] at member
        obtain ⟨held, there, named⟩ := member
        obtain ⟨filled, lowered⟩ := catalog.databaseNames _ held there
        have key : lower name = name := by rw [← HeldDatabases.find_named there, named]
        rw [key] at filled lowered
        have same : name = asked := ScanFilter.eq_lookedUp given lowered holds
        rw [Option.map_id_fun, id, ← same, getEntry_name (current _) filled, there, Option.map_some, named]

/-- Loading the tables of a schema leaves its entry, with every table in it. -/
theorem find_act_loadTables (current : ∀ key, CurrentAt glue s key) (found : s.find schema = some entry) :
    ∃ loaded, (s.act glue (.loadTables schema)).find schema = some loaded ∧ loaded.tables.isLoaded = true := by
  have named : lower entry.info.name = lower schema := s.named _ entry found
  obtain ⟨held, there, _⟩ := (current _ entry found).held
  rw [← HeldDatabases.find_lower, named, HeldDatabases.find_lower] at there
  unfold act
  dsimp only
  rw [found, there]
  dsimp only
  split_ifs with loaded
  · exact ⟨entry, found, loaded⟩
  · let tables := loadTables s.objects (held.tables.tables.entries.map (·.2)) entry.tables
    refine ⟨{ entry with tables := { tables with isLoaded := true } }, ?_, rfl⟩
    rw [find, put, ← named]
    exact AList.lookup_insert _

/-- The definitions a scan of a schema lists. -/
theorem mem_scanTables (current : ∀ key, CurrentAt glue s key) (complete : Complete glue s)
    (found : s.find schema = some entry) (table : GlueTableInfo) :
    table ∈ (s.scanTables glue schema).map (·.info) ↔
      glue.getTable schema table.name = some table ∧ (buildEntry 0 table).isOk = true := by
  obtain ⟨loadedEntry, there, loaded⟩ := find_act_loadTables current found
  have own := act_current (.loadTables schema) (current _) loadedEntry there
  have named : lower loadedEntry.info.name = lower schema := (s.act glue (.loadTables schema)).named _ _ there
  have database : ∀ name, glue.getTable loadedEntry.info.name name = glue.getTable schema name := by
    intro name
    rw [HeldDatabases.getTable, HeldDatabases.getTable, ← HeldDatabases.find_lower, named, HeldDatabases.find_lower]
  unfold scanTables
  rw [there]
  dsimp only
  constructor
  · intro member
    obtain ⟨built, scanned, rfl⟩ := List.mem_map.mp member
    obtain ⟨key, inside⟩ := mem_scanned.mp scanned
    obtain ⟨_, held, object, made⟩ := own.tables key built inside
    rw [database] at held
    refine ⟨held, ?_⟩
    rw [buildEntry_isOk 0 object, made]
    rfl
  · intro buildable
    obtain ⟨held, built⟩ := buildable
    rw [← database] at held
    have all := (complete.act (.loadTables schema)).tables _ _ there loaded
    obtain ⟨listed, inside⟩ := Option.isSome_iff_exists.mp (all _ table held built)
    refine List.mem_map.mpr ⟨listed, mem_scanned.mpr ⟨_, inside⟩, ?_⟩
    -- what the set has under the name is built from what Glue holds under it
    obtain ⟨key, ownHeld, _⟩ := own.tables _ listed inside
    rw [CompleteTables.getTable_congr key, held] at ownHeld
    exact (Option.some.inj ownHeld).symm

theorem nodup_scanTables (current : ∀ key, CurrentAt glue s key) :
    ((s.scanTables glue schema).map (·.info)).Nodup := by
  unfold scanTables
  cases there : (s.act glue (.loadTables schema)).find schema with
  | none => exact .nil
  | some entry =>
      have own := act_current (.loadTables schema) (current _) entry there
      have distinct : (entry.tables.entries.entries.map fun one => one.2.info).Nodup :=
        @nodup_entries _ _ entry.tables.entries (·.info) (fun info => lower info.name)
          fun key built inside => (own.tables key built inside).1
      dsimp only [scanned]
      rw [List.map_map]
      exact distinct

/-- The table a scan of a schema looks up, if Glue holds one of the name. -/
def lookedUpTable (glue : HeldDatabases) (s : GlueSchemaSet) (schema : Text) (type : CatalogType)
    (filter : ScanFilter CatalogEntry Function Literal) : Option GlueTableInfo :=
  if SchemaEntry.catalogTypeIsSupported type && (s.find schema).isSome then
    filter.lookedUp.bind (glue.getTable schema)
  else none

theorem lookupIn_table {type : CatalogType} (current : ∀ key, CurrentAt glue s key) (found : s.find schema = some entry)
    (supported : SchemaEntry.catalogTypeIsSupported type = true) :
    ((s.lookupIn glue schema type name).2.map (·.entry)).map (fun found => found.map (·.info)) =
      definition (glue.getTable schema name) := by
  have named : lower entry.info.name = lower schema := s.named _ entry found
  have database : glue.getTable schema name = glue.getTable entry.info.name name := by
    rw [HeldDatabases.getTable, HeldDatabases.getTable, ← HeldDatabases.find_lower, ← named, HeldDatabases.find_lower]
  unfold lookupIn
  rw [found, database, ← SchemaEntry.lookupEntry_definition (current _ entry found).tables supported]
  dsimp only
  cases (entry.lookupEntry glue s.objects type name).2 with
  | error failed => rfl
  | ok found => rfl

theorem definition_eq_ok {held found : Option GlueTableInfo} (defined : definition held = .ok found) :
    found = held ∧ ∀ table, held = some table → (buildEntry 0 table).isOk = true := by
  cases held with
  | none =>
      cases defined
      exact ⟨rfl, nofun⟩
  | some table =>
      rw [definition] at defined
      cases built : buildEntry 0 table with
      | error failed =>
          rw [built] at defined
          cases defined
      | ok entry =>
          rw [built] at defined
          cases defined
          constructor
          · exact congrArg some (buildEntry_info built)
          · intro other same
            cases same
            rw [built]
            rfl

theorem definition_eq_error {held : Option GlueTableInfo} {failed : Exception}
    (defined : definition held = .error failed) : ∃ table, held = some table ∧ (buildEntry 0 table).isOk = false := by
  cases held with
  | none => cases defined
  | some table =>
      refine ⟨table, rfl, ?_⟩
      rw [definition] at defined
      cases built : buildEntry 0 table with
      | error failed => rfl
      | ok entry =>
          rw [built] at defined
          cases defined

/-- The tables a filter accepts are looked up under its name or listed, unless the lookup fails. -/
theorem scanSchema_agrees {sql : SQLFunctions Function Literal} {catalog : LowerCaseDatabases sql.lower}
    (current : ∀ key, CurrentAt catalog.toHeldDatabases s key) (complete : Complete catalog.toHeldDatabases s)
    (schema : Text) (type : CatalogType) (filter : ScanFilter CatalogEntry Function Literal) :
    ScanAgrees (filter.satisfied sql (·.info.name)) (·.info)
        (s.scanSchema catalog.toHeldDatabases schema type filter) (s.scanType catalog.toHeldDatabases schema type) ↔
      ∀ table, s.lookedUpTable catalog.toHeldDatabases schema type filter = some table →
        (buildEntry 0 table).isOk = true := by
  unfold scanSchema lookedUpTable
  cases supported : SchemaEntry.catalogTypeIsSupported type with
  | false => simp [ScanAgrees]
  | true =>
      rw [Bool.not_true, if_neg Bool.false_ne_true, Bool.true_and]
      cases given : filter.lookedUp with
      | none => simp [ScanAgrees]
      | some asked =>
          have unfiltered : s.scanType catalog.toHeldDatabases schema type = s.scanTables catalog.toHeldDatabases schema := by
            rw [scanType, supported, Bool.not_true, if_neg Bool.false_ne_true]
          rw [unfiltered]
          dsimp only
          cases found : s.find schema with
          | none =>
              have nothing : s.scanTables catalog.toHeldDatabases schema = [] := by
                simp only [scanTables, act, found]
              have looked : s.lookupIn catalog.toHeldDatabases schema type asked = (s, .ok {}) := by
                rw [lookupIn, found]
              rw [nothing, looked]
              simp [ScanAgrees, Except.map]
          | some entry =>
              have answer : ((s.lookupIn catalog.toHeldDatabases schema type asked).2.map (·.entry)).map
                  (fun found => found.map (·.info)) = definition (catalog.getTable schema asked) :=
                lookupIn_table current found supported
              have listed := mem_scanTables current complete found
              rw [Option.isSome_some, if_pos rfl, Option.bind_some]
              cases looked : (s.lookupIn catalog.toHeldDatabases schema type asked).2 with
              | error failed =>
                  rw [looked] at answer
                  obtain ⟨table, held, unbuilt⟩ := definition_eq_error answer.symm
                  simp [ScanAgrees, Except.map, held, unbuilt]
              | ok result =>
                  rw [looked] at answer
                  obtain ⟨same, built⟩ := definition_eq_ok answer.symm
                  apply iff_of_true _ built
                  rw [ScanFilter.satisfied_lookedUp given]
                  apply @ScanAgrees.of_lookup _ _ result.entry _ CatalogEntry.info
                    fun table => filter.name.all fun equality => sql.accepts equality table.name
                  · exact nodup_scanTables current
                  · intro table returned
                    have held := same.symm.trans returned
                    exact (listed table).mpr ⟨(HeldDatabases.getTable_own held).2, built table held⟩
                  · intro table member holds
                    obtain ⟨held, _⟩ := (listed table).mp member
                    obtain ⟨database, there, inside⟩ := Option.bind_eq_some_iff.mp held
                    have lowered := catalog.tableNames _ database there _ table inside
                    rw [ScanFilter.eq_lookedUp given lowered holds] at held
                    exact same.trans held

/-- The set after what was done since ATTACH, while Glue did not change. -/
def sinceAttach (glue : HeldDatabases) (actions : List SchemaAction) : GlueSchemaSet :=
  actions.foldl (act glue) attached

/-- A filter changes nothing but the requests, unless a scan looks up a table that can not become
an entry: the lookup fails where a scan without the filter leaves the table out. -/
theorem scans_agree_iff (sql : SQLFunctions Function Literal) (catalog : LowerCaseDatabases sql.lower)
    (actions : List SchemaAction) (schemas : ScanFilter Text Function Literal) (schema : Text) (type : CatalogType)
    (tables : ScanFilter CatalogEntry Function Literal) :
    ScanAgrees (schemas.satisfied sql id) id
          (.ok ((sinceAttach catalog.toHeldDatabases actions).getSchemasForScan catalog.toHeldDatabases schemas))
          ((sinceAttach catalog.toHeldDatabases actions).scan catalog.toHeldDatabases) ∧
        ScanAgrees (tables.satisfied sql (·.info.name)) (·.info)
          ((sinceAttach catalog.toHeldDatabases actions).scanSchema catalog.toHeldDatabases schema type tables)
          ((sinceAttach catalog.toHeldDatabases actions).scanType catalog.toHeldDatabases schema type) ↔
      ∀ table, (sinceAttach catalog.toHeldDatabases actions).lookedUpTable catalog.toHeldDatabases schema type tables =
        some table → (buildEntry 0 table).isOk = true := by
  have current := @current_since_attach catalog.toHeldDatabases actions
  have complete := @Complete.since_attach catalog.toHeldDatabases actions
  have listed := getSchemasForScan_agrees current complete schemas
  have scanned := scanSchema_agrees current complete schema type tables
  exact ⟨fun both => scanned.mp both.2, fun built => ⟨listed, scanned.mpr built⟩⟩

section Examples

/-- A table with a column of a type DuckDB does not have. -/
def eventsTable : GlueTableInfo := { name := "events", columns := [{ name := "id", type := "uniontype<int,string>" }] }

/-- One database with that table. -/
def eventsCatalog : LowerCaseDatabases lower where
  databases := AList.singleton ("sales" : Text)
    { info := { name := "sales" }
      tables :=
        { tables := AList.singleton ("events" : Text) eventsTable
          named := by
            intro key table found
            obtain ⟨rfl, rfl⟩ := lookup_singleton found
            rfl } }
  named := by
    intro key held found
    obtain ⟨rfl, rfl⟩ := lookup_singleton found
    exact ⟨rfl, rfl⟩
  databaseNames := by
    intro key held found
    obtain ⟨rfl, rfl⟩ := lookup_singleton found
    exact ⟨nofun, rfl⟩
  tableNames := by
    intro key held found tableKey table inside
    obtain ⟨rfl, rfl⟩ := lookup_singleton found
    obtain ⟨rfl, rfl⟩ := lookup_singleton inside
    rfl

/-- `table_name = 'events'` -/
def eventsFilter : ScanFilter CatalogEntry Empty Empty :=
  { name := some (.call .equal [.columnRef (), .constant (some (.varchar "events"))]) }

/-- Without the filter the scan lists no table; with it, it throws. -/
theorem scans_unsupportedType :
    ¬ScanAgrees (eventsFilter.satisfied ⟨lower, fun _ _ => none⟩ (·.info.name)) (·.info)
      ((sinceAttach eventsCatalog.toHeldDatabases [.getEntry "sales"]).scanSchema eventsCatalog.toHeldDatabases "sales"
        .tableEntry eventsFilter)
      ((sinceAttach eventsCatalog.toHeldDatabases [.getEntry "sales"]).scanType eventsCatalog.toHeldDatabases "sales"
        .tableEntry) := by
  intro agrees
  have built := (scanSchema_agrees (current_since_attach [.getEntry "sales"]) (.since_attach _) _ _ _).mp agrees
    eventsTable rfl
  have unsupported : (buildEntry 0 eventsTable).isOk = false := by decide +kernel
  rw [unsupported] at built
  cases built

end Examples

end GlueSchemaSet

end DuckGlue
