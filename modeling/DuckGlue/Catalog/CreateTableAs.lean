import DuckGlue.Catalog.GlueTableSet
import DuckGlue.Lib.Runs

/-! # Failed CREATE TABLE AS

CREATE TABLE AS creates its table in Glue when it starts executing, fetches it again,
puts its entry into the set of the schema, and records it for the rollback, which drops
it from Glue. Where a statement fails later its entry stays in the set; where it fails
before the table is recorded the table stays in Glue.
-/

namespace DuckGlue

open StringUtil GlueTableSet

/-- Where a CREATE TABLE AS fails once Glue has created its table. -/
inductive CreateTableAsFault where
  /-- The answer of CreateTable is lost. -/
  | createAnswer
  | refetch
  | registerTableCleanup
  /-- The query, the copy, or the registration of partitions. -/
  | execution
  deriving Repr, DecidableEq

/-- How a statement that creates a table ends. -/
inductive CreateOutcome where
  /-- The table was there, or could not be looked up. -/
  | refused
  | created
  /-- The statement threw after Glue created the table. -/
  | failed
  deriving Repr, DecidableEq

/-- A connection and one database of Glue, whose tables are held by lower case name. -/
structure DatabaseState where
  glue : AList (fun _ : Text => GlueTableInfo) := ∅
  set : GlueTableSet := {}
  objects : ℕ := 0
  /-- The cache of the running transaction, of its own or of the connection. -/
  transactionCache : AList (fun _ : Text => GlueTableInfo) := ∅
  connectionCache : AList (fun _ : Text => GlueTableInfo) := ∅
  connectionScoped : Bool := false
  onConnection : Bool := false

inductive DatabaseAction where
  | setScope (connectionScoped : Bool)
  /-- The transaction before it has ended. -/
  | startTransaction
  | lookup (name : Text)
  | scan
  | createTable (stored : GlueTableInfo) (fault : Option CreateTableAsFault)
  | createTableAs (stored : GlueTableInfo) (fault : Option CreateTableAsFault)
  | dropTable (name : Text)

namespace DatabaseState

variable (s : DatabaseState)

def cache : AList (fun _ : Text => GlueTableInfo) := if s.onConnection then s.connectionCache else s.transactionCache

/-- A loaded value is kept; a table that is not there is asked for again. -/
def store (key : Text) (table : GlueTableInfo) : DatabaseState :=
  if (s.cache.lookup key).isSome then s
  else if s.onConnection then { s with connectionCache := s.connectionCache.insert key table }
  else { s with transactionCache := s.transactionCache.insert key table }

/-- `GlueTransactionCache::GetTable`, loading with GetTable. -/
def getTable (name : Text) : DatabaseState × Option GlueTableInfo :=
  match s.cache.lookup (lower name) with
  | some table => (s, some table)
  | none =>
      match s.glue.lookup (lower name) with
      | some table => (s.store (lower name) table, some table)
      | none => (s, none)

/-- `Invalidate` and the hooks of a rollback. -/
def clearCaches : DatabaseState := { s with transactionCache := ∅, connectionCache := ∅ }

/-- `GlueTableSet::GetEntry` -/
def getEntry (name : Text) : DatabaseState × Except Exception (Option CatalogEntry) :=
  let (s, table) := s.getTable name
  let (change, result) := s.set.getEntry s.objects name table
  ({ s with set := change.set, objects := s.objects + 1 }, result)

/-- What `LoadEntries` does with a table of the list. -/
def loadTable (table : GlueTableInfo) : DatabaseState :=
  let s := s.store (lower table.name) table
  { s with set := (s.set.loadTable s.objects table).set, objects := s.objects + 1 }

/-- `LoadEntries` -/
def loadEntries : DatabaseState :=
  if s.set.isLoaded then s
  else
    let loaded := (s.glue.entries.map (·.2)).foldl loadTable s
    { loaded with set := { loaded.set with isLoaded := true } }

/-- `CreateTableInternal` up to the entry of the new table: `stored` is what Glue makes
of the definition. -/
def createTableInternal (stored : GlueTableInfo) (fault : Option CreateTableAsFault) :
    DatabaseState × CreateOutcome :=
  match s.getEntry stored.name with
  | (s, .ok none) =>
      -- another client's table would be taken as it is
      if (s.glue.lookup (lower stored.name)).isSome then ((s.clearCaches.getEntry stored.name).1, .refused)
      else
        let created := { s with glue := s.glue.insert (lower stored.name) stored }.clearCaches
        if fault = some .createAnswer ∨ fault = some .refetch then (created, .failed)
        else
          match buildEntry created.objects stored with
          | .error _ => (created, .failed)
          | .ok entry =>
              ({ created with set := (created.set.createEntry entry).set, objects := created.objects + 1 }, .created)
  | (s, _) => (s, .refused)

/-- `GlueTransaction::Rollback` of the created tables, by name. -/
def rollback (created : List Text) : DatabaseState :=
  { s.clearCaches with glue := created.foldl (fun glue name => glue.erase (lower name)) s.glue }

/-- The execution of a CREATE TABLE AS, with the rollback if it fails. -/
def createTableAs (stored : GlueTableInfo) (fault : Option CreateTableAsFault) : DatabaseState × CreateOutcome :=
  match s.createTableInternal stored fault with
  | (s, .created) =>
      if fault = some .registerTableCleanup then (s.rollback [], .failed)
      else if fault = some .execution then (s.rollback [stored.name], .failed)
      else (s, .created)
  | (s, outcome) => (s.rollback [], outcome)

/-- `DropEntry` -/
def dropTable (name : Text) : DatabaseState :=
  match s.getEntry name with
  | (s, .ok (some _)) =>
      { { s with glue := s.glue.erase (lower name) }.clearCaches with set := (s.set.removeEntry name).set }
  | (s, _) => s

def step : DatabaseAction → DatabaseState
  | .setScope connectionScoped => { s with connectionScoped }
  | .startTransaction => { s with transactionCache := ∅, onConnection := s.connectionScoped }
  | .lookup name => (s.getEntry name).1
  | .scan => s.loadEntries
  | .createTable stored fault => (s.createTableInternal stored fault).1
  | .createTableAs stored fault => (s.createTableAs stored fault).1
  | .dropTable name => s.dropTable name

def Step (s : DatabaseState) (action : DatabaseAction) (s' : DatabaseState) : Prop := s' = s.step action

/-- The table of the name `Scan` lists. -/
def listed (name : Text) : Option GlueTableInfo := (s.loadEntries.set.find name).map (·.info)

/-- The table `GetEntry` returns for the name. -/
def returned (name : Text) : Except Exception (Option GlueTableInfo) := (s.getEntry name).2.map (·.map (·.info))

/-- A statement from one state to another has left no trace: Glue holds, `Scan` lists
and `GetEntry` returns the same tables. -/
structure TraceFree (s s' : DatabaseState) : Prop where
  glue : ∀ name, s'.glue.lookup name = s.glue.lookup name
  lists : ∀ name, s'.listed name = s.listed name
  returns : ∀ name, s'.returned name = s.returned name

/-- The definition Glue stores can become an entry. -/
def Readable (table : GlueTableInfo) : Prop := (buildEntry 0 table).isOk = true

/-- The caches hold what Glue holds, and Glue holds every table under its name. -/
structure Coherent : Prop where
  transactionCache : ∀ key table, s.transactionCache.lookup key = some table → s.glue.lookup key = some table
  connectionCache : ∀ key table, s.connectionCache.lookup key = some table → s.glue.lookup key = some table
  named : ∀ key table, s.glue.lookup key = some table → key = lower table.name

variable {s} {s' : DatabaseState}

theorem coherent_clearCaches (named : ∀ key table, s.glue.lookup key = some table → key = lower table.name) :
    s.clearCaches.Coherent where
  transactionCache := by simp [clearCaches]
  connectionCache := by simp [clearCaches]
  named := named

theorem cache_coherent (coherent : s.Coherent) {key : Text} {table : GlueTableInfo}
    (cached : s.cache.lookup key = some table) : s.glue.lookup key = some table := by
  unfold cache at cached
  split_ifs at cached
  · exact coherent.connectionCache key table cached
  · exact coherent.transactionCache key table cached

/-- Nothing but the caches differs. -/
structure SameTables (s s' : DatabaseState) : Prop where
  glue : s'.glue = s.glue
  set : s'.set = s.set
  objects : s'.objects = s.objects

theorem store_sameTables (key : Text) (table : GlueTableInfo) : SameTables s (s.store key table) := by
  unfold store
  split_ifs
  · exact ⟨rfl, rfl, rfl⟩
  · exact ⟨rfl, rfl, rfl⟩
  · exact ⟨rfl, rfl, rfl⟩

theorem coherent_store (coherent : s.Coherent) {key : Text} {table : GlueTableInfo}
    (held : s.glue.lookup key = some table) : (s.store key table).Coherent := by
  have inserted : ∀ {cached : AList fun _ : Text => GlueTableInfo},
      (∀ other one, cached.lookup other = some one → s.glue.lookup other = some one) → ∀ other one,
      (cached.insert key table).lookup other = some one → s.glue.lookup other = some one := by
    intro cached known other one found
    by_cases same : other = key
    · subst same
      rw [AList.lookup_insert] at found
      cases found
      exact held
    · rw [AList.lookup_insert_ne same] at found
      exact known other one found
  unfold store
  split_ifs
  · exact coherent
  · exact ⟨coherent.transactionCache, inserted coherent.connectionCache, coherent.named⟩
  · exact ⟨inserted coherent.transactionCache, coherent.connectionCache, coherent.named⟩

/-- A lookup through the cache gives what Glue holds. -/
theorem getTable_spec (coherent : s.Coherent) (name : Text) :
    SameTables s (s.getTable name).1 ∧ (s.getTable name).1.Coherent ∧
      (s.getTable name).2 = s.glue.lookup (lower name) := by
  unfold getTable
  cases cached : s.cache.lookup (lower name) with
  | some table => exact ⟨⟨rfl, rfl, rfl⟩, coherent, (cache_coherent coherent cached).symm⟩
  | none =>
      cases held : s.glue.lookup (lower name) with
      | some table => exact ⟨store_sameTables _ _, coherent_store coherent held, rfl⟩
      | none => exact ⟨⟨rfl, rfl, rfl⟩, coherent, rfl⟩

/-- A lookup compares the set with what Glue holds. -/
theorem getEntry_spec (coherent : s.Coherent) (name : Text) :
    (s.getEntry name).1.glue = s.glue ∧ (s.getEntry name).1.Coherent ∧
      (s.getEntry name).1.set = (s.set.getEntry s.objects name (s.glue.lookup (lower name))).1.set ∧
      (s.getEntry name).2 = (s.set.getEntry s.objects name (s.glue.lookup (lower name))).2 := by
  obtain ⟨same, coherent', table⟩ := getTable_spec coherent name
  unfold getEntry
  refine ⟨same.glue, ⟨coherent'.transactionCache, coherent'.connectionCache, coherent'.named⟩, ?_, ?_⟩
  · simp only [same.set, same.objects, table]
  · simp only [same.set, same.objects, table]

theorem getEntry_coherent (coherent : s.Coherent) (name : Text) : (s.getEntry name).1.Coherent :=
  (getEntry_spec coherent name).2.1

theorem loadTable_coherent (coherent : s.Coherent) {table : GlueTableInfo}
    (held : s.glue.lookup (lower table.name) = some table) :
    (s.loadTable table).Coherent ∧ (s.loadTable table).glue = s.glue := by
  have stored := coherent_store coherent held
  have same := store_sameTables (s := s) (lower table.name) table
  unfold loadTable
  exact ⟨⟨stored.transactionCache, stored.connectionCache, stored.named⟩, same.glue⟩

theorem loadTable_find (table : GlueTableInfo) (name : Text) :
    ((s.loadTable table).set.find name).map (·.info) =
      if lower name = lower table.name then merged ((s.set.find name).map (·.info)) (some table)
      else (s.set.find name).map (·.info) := by
  have same := store_sameTables (s := s) (lower table.name) table
  unfold loadTable
  simp only [same.set, same.objects]
  exact find_loadTable_info table name

theorem foldl_loadTable {tables : List GlueTableInfo} (coherent : s.Coherent)
    (held : ∀ table ∈ tables, s.glue.lookup (lower table.name) = some table) :
    (tables.foldl loadTable s).Coherent ∧ (tables.foldl loadTable s).glue = s.glue ∧
      ∀ name, ((tables.foldl loadTable s).set.find name).map (·.info) =
        if ∃ table ∈ tables, lower name = lower table.name then
          merged ((s.set.find name).map (·.info)) (s.glue.lookup (lower name))
        else (s.set.find name).map (·.info) := by
  induction tables generalizing s with
  | nil => exact ⟨coherent, rfl, fun name => by simp⟩
  | cons table tables ih =>
      have here : s.glue.lookup (lower table.name) = some table := held table (by simp)
      obtain ⟨kept, glue⟩ := loadTable_coherent coherent here
      have rest : ∀ other ∈ tables, (s.loadTable table).glue.lookup (lower other.name) = some other := by
        intro other member
        rw [glue]
        exact held other (by simp [member])
      obtain ⟨coherent', glue', listed⟩ := ih kept rest
      refine ⟨coherent', glue'.trans glue, ?_⟩
      intro name
      rw [List.foldl_cons, listed, loadTable_find, glue]
      by_cases named : lower name = lower table.name
      · have held : s.glue.lookup (lower name) = some table := named ▸ here
        have listedHere : ∃ other ∈ table :: tables, lower name = lower other.name :=
          ⟨table, List.mem_cons_self, named⟩
        rw [if_pos named, held, merged_again, if_pos listedHere]
        split_ifs <;> rfl
      · simp [named]

/-- The tables Glue lists, each under its name. -/
theorem mem_tables (coherent : s.Coherent) {table : GlueTableInfo} :
    table ∈ s.glue.entries.map (·.2) ↔ s.glue.lookup (lower table.name) = some table := by
  constructor
  · intro member
    obtain ⟨⟨key, table⟩, here, rfl⟩ := List.mem_map.mp member
    have found : s.glue.lookup key = some table := AList.mem_lookup_iff.mpr here
    rw [← coherent.named key table found]
    exact found
  · intro found
    exact List.mem_map.mpr ⟨⟨lower table.name, table⟩, AList.mem_lookup_iff.mp found, rfl⟩

theorem loadEntries_spec (coherent : s.Coherent) :
    s.loadEntries.Coherent ∧ s.loadEntries.glue = s.glue ∧
      ∀ name, s.listed name = if s.set.isLoaded then (s.set.find name).map (·.info)
        else merged ((s.set.find name).map (·.info)) (s.glue.lookup (lower name)) := by
  unfold listed loadEntries
  cases loaded : s.set.isLoaded with
  | true => simp [coherent]
  | false =>
      obtain ⟨kept, glue, listed⟩ :=
        foldl_loadTable coherent (fun table member => (mem_tables coherent).mp member)
      refine ⟨⟨kept.transactionCache, kept.connectionCache, kept.named⟩, glue, ?_⟩
      intro name
      have found : GlueTableSet.find { ((s.glue.entries.map (·.2)).foldl loadTable s).set with isLoaded := true } name =
          ((s.glue.entries.map (·.2)).foldl loadTable s).set.find name := rfl
      simp only [Bool.false_eq_true, if_false, found, listed]
      cases held : s.glue.lookup (lower name) with
      | none =>
          rw [if_neg]
          · cases s.set.find name <;> rfl
          · intro there
            obtain ⟨table, member, named⟩ := there
            rw [named, (mem_tables coherent).mp member] at held
            cases held
      | some table =>
          have named := coherent.named _ _ held
          rw [if_pos]
          exact ⟨table, (mem_tables coherent).mpr (named ▸ held), named⟩

theorem listed_eq (coherent : s.Coherent) (name : Text) :
    s.listed name = if s.set.isLoaded then (s.set.find name).map (·.info)
      else merged ((s.set.find name).map (·.info)) (s.glue.lookup (lower name)) :=
  (loadEntries_spec coherent).2.2 name

/-- What `GetEntry` returns is made of the set's entry and what Glue holds. -/
theorem returned_eq (coherent : s.Coherent) (name : Text) :
    s.returned name = ((s.set.getEntry s.objects name (s.glue.lookup (lower name))).2).map (·.map (·.info)) := by
  obtain ⟨_, _, _, result⟩ := getEntry_spec coherent name
  unfold returned
  rw [result]

/-- What creating a table leaves behind: Glue holds it once it answered, the set has its
entry once it was fetched again. -/
structure Creates (s : DatabaseState) (stored : GlueTableInfo) (s' : DatabaseState) : Prop where
  absent : s.glue.lookup (lower stored.name) = none
  glue : s'.glue = s.glue.insert (lower stored.name) stored
  coherent : s'.Coherent

structure Enters (s : DatabaseState) (stored : GlueTableInfo) (s' : DatabaseState) : Prop where
  readable : Readable stored
  here : (s'.set.find stored.name).map (·.info) = some stored
  others : ∀ name, lower name ≠ lower stored.name → s'.set.find name = s.set.find name
  isLoaded : s'.set.isLoaded = s.set.isLoaded

theorem createTableInternal_cases (coherent : s.Coherent) (stored : GlueTableInfo) (fault : Option CreateTableAsFault) :
    match s.createTableInternal stored fault with
    | (s', .refused) => s'.glue = s.glue ∧ s'.Coherent
    | (s', .failed) => s.Creates stored s' ∧
        (fault = some .createAnswer ∨ fault = some .refetch ∨ ¬ Readable stored)
    | (s', .created) => s.Creates stored s' ∧ s.Enters stored s' ∧
        fault ≠ some .createAnswer ∧ fault ≠ some .refetch := by
  obtain ⟨glue, coherent', set, result⟩ := getEntry_spec coherent stored.name
  unfold createTableInternal
  cases looked : s.getEntry stored.name with
  | mk next found =>
      rw [looked] at glue coherent' set result
      simp only at glue coherent' set result
      cases found with
      | error => exact ⟨glue, coherent'⟩
      | ok entry =>
          cases entry with
          | some entry => exact ⟨glue, coherent'⟩
          | none =>
              have absent : s.glue.lookup (lower stored.name) = none := getEntry_ok_none.mp result.symm
              rw [absent] at set
              have erased : next.set = s.set.erase stored.name := set
              have free : (next.glue.lookup (lower stored.name)).isSome = false := by rw [glue, absent]; rfl
              have named : ∀ key table, (next.glue.insert (lower stored.name) stored).lookup key = some table →
                  key = lower table.name := by
                intro key table held
                by_cases same : key = lower stored.name
                · subst same
                  rw [AList.lookup_insert] at held
                  cases held
                  rfl
                · rw [AList.lookup_insert_ne same] at held
                  exact coherent'.named key table held
              have kept := coherent_clearCaches (s := { next with glue := next.glue.insert (lower stored.name) stored }) named
              have creates : s.Creates stored
                  { next with glue := next.glue.insert (lower stored.name) stored }.clearCaches :=
                ⟨absent, by rw [← glue]; rfl, kept⟩
              simp only [free, Bool.false_eq_true, if_false]
              by_cases early : fault = some .createAnswer ∨ fault = some .refetch
              · rw [if_pos early]
                exact ⟨creates, early.imp_right .inl⟩
              · rw [if_neg early]
                cases built : buildEntry next.objects stored with
                | error =>
                    simp only [clearCaches, built]
                    refine ⟨creates, .inr (.inr ?_)⟩
                    intro readable
                    unfold Readable at readable
                    rw [buildEntry_isOk 0 next.objects, built] at readable
                    cases readable
                | ok entry =>
                    simp only [clearCaches, built]
                    have same : entry.info = stored := buildEntry_info built
                    refine ⟨⟨absent, creates.glue, ⟨kept.transactionCache, kept.connectionCache, kept.named⟩⟩, ?_,
                      fun answer => early (.inl answer), fun refetched => early (.inr refetched)⟩
                    constructor
                    · unfold Readable
                      rw [buildEntry_isOk 0 next.objects, built]
                      rfl
                    · rw [createEntry, same]
                      simp only [find, emplace, AList.lookup_insert, Option.map_some, same]
                    · intro name differs
                      rw [createEntry, same, erased]
                      exact (AList.lookup_insert_ne differs).trans
                        ((AList.lookup_erase_ne differs).trans (AList.lookup_erase_ne differs))
                    · rw [erased]
                      rfl

/-- A rollback takes tables from Glue and puts none there. -/
theorem rollback_lookup {created : List Text} {key : Text} {table : GlueTableInfo}
    (held : (s.rollback created).glue.lookup key = some table) : s.glue.lookup key = some table := by
  unfold rollback at held
  simp only at held
  generalize s.glue = glue at held ⊢
  induction created generalizing glue with
  | nil => exact held
  | cons name created ih =>
      have erased := ih (glue.erase (lower name)) held
      by_cases same : key = lower name
      · subst same
        rw [AList.lookup_erase] at erased
        cases erased
      · rw [AList.lookup_erase_ne same] at erased
        exact erased

theorem rollback_coherent (coherent : s.Coherent) (created : List Text) : (s.rollback created).Coherent where
  transactionCache := by simp [rollback, clearCaches]
  connectionCache := by simp [rollback, clearCaches]
  named key table held := coherent.named key table (rollback_lookup held)

theorem createTableAs_cases (coherent : s.Coherent) (stored : GlueTableInfo) (fault : Option CreateTableAsFault) :
    match s.createTableAs stored fault with
    | (s', .refused) => s'.glue = s.glue ∧ s'.Coherent
    | (s', .failed) => (s.Creates stored s' ∧ ¬ (fault = some .execution ∧ Readable stored)) ∨
        (s'.Coherent ∧ s.glue.lookup (lower stored.name) = none ∧ s.Enters stored s' ∧ fault = some .execution ∧
          ∀ key, s'.glue.lookup key = s.glue.lookup key)
    | (s', .created) => s.Creates stored s' ∧ s.Enters stored s' := by
  have created := createTableInternal_cases coherent stored fault
  unfold createTableAs
  cases h : s.createTableInternal stored fault with
  | mk next outcome =>
      rw [h] at created
      cases outcome with
      | refused => exact ⟨created.1, rollback_coherent created.2 []⟩
      | failed =>
          obtain ⟨creates, early⟩ := created
          left
          refine ⟨⟨creates.absent, creates.glue, rollback_coherent creates.coherent []⟩, ?_⟩
          intro late
          rcases early with answer | refetched | unreadable
          · cases late.1.symm.trans answer
          · cases late.1.symm.trans refetched
          · exact unreadable late.2
      | created =>
          obtain ⟨creates, enters, _, _⟩ := created
          by_cases recorded : fault = some .registerTableCleanup
          · rw [recorded]
            left
            refine ⟨⟨creates.absent, creates.glue, rollback_coherent creates.coherent []⟩, ?_⟩
            intro late
            cases late.1
          · by_cases executed : fault = some .execution
            · rw [executed]
              right
              have back : ∀ key, (next.glue.erase (lower stored.name)).lookup key = s.glue.lookup key := by
                intro key
                by_cases same : key = lower stored.name
                · subst same
                  rw [AList.lookup_erase, creates.absent]
                · rw [AList.lookup_erase_ne same, creates.glue, AList.lookup_insert_ne same]
              exact ⟨rollback_coherent creates.coherent [stored.name], creates.absent,
                ⟨enters.readable, enters.here, enters.others, enters.isLoaded⟩, rfl, back⟩
            · simp only [recorded, executed, if_false]
              exact ⟨creates, enters⟩

theorem createTableInternal_coherent (coherent : s.Coherent) (stored : GlueTableInfo)
    (fault : Option CreateTableAsFault) : (s.createTableInternal stored fault).1.Coherent := by
  have created := createTableInternal_cases coherent stored fault
  cases h : s.createTableInternal stored fault with
  | mk next outcome =>
      rw [h] at created
      cases outcome with
      | refused => exact created.2
      | failed => exact created.1.coherent
      | created => exact created.1.coherent

theorem createTableAs_coherent (coherent : s.Coherent) (stored : GlueTableInfo)
    (fault : Option CreateTableAsFault) : (s.createTableAs stored fault).1.Coherent := by
  have created := createTableAs_cases coherent stored fault
  cases h : s.createTableAs stored fault with
  | mk next outcome =>
      rw [h] at created
      cases outcome with
      | refused => exact created.2
      | created => exact created.1.coherent
      | failed =>
          rcases created with ⟨creates, _⟩ | ⟨kept, _⟩
          · exact creates.coherent
          · exact kept

theorem dropTable_coherent (coherent : s.Coherent) (name : Text) : (s.dropTable name).Coherent := by
  have looked := getEntry_coherent coherent name
  have glue := (getEntry_spec coherent name).1
  unfold dropTable
  cases h : s.getEntry name with
  | mk next result =>
      rw [h] at looked glue
      cases result with
      | error => exact looked
      | ok found =>
          cases found with
          | none => exact looked
          | some entry =>
              constructor
              · simp [clearCaches]
              · simp [clearCaches]
              · intro key table held
                have erased : (s.glue.erase (lower name)).lookup key = some table := by
                  rw [← glue]
                  exact held
                by_cases same : key = lower name
                · subst same
                  rw [AList.lookup_erase] at erased
                  cases erased
                · rw [AList.lookup_erase_ne same] at erased
                  exact coherent.named key table erased

/-- Every statement of the connection keeps its caches coherent. -/
theorem step_coherent {action : DatabaseAction} (stepped : Step s action s') (coherent : s.Coherent) : s'.Coherent := by
  cases stepped
  cases action with
  | setScope => exact ⟨coherent.transactionCache, coherent.connectionCache, coherent.named⟩
  | startTransaction =>
      constructor
      · simp [step]
      · exact coherent.connectionCache
      · exact coherent.named
  | lookup name => exact getEntry_coherent coherent name
  | scan => exact (loadEntries_spec coherent).1
  | createTable stored fault => exact createTableInternal_coherent coherent stored fault
  | createTableAs stored fault => exact createTableAs_coherent coherent stored fault
  | dropTable name => exact dropTable_coherent coherent name

/-- A statement that failed in its execution leaves the set's entry, and nothing else. -/
theorem traceFree_of_enters {stored : GlueTableInfo} (coherent : s.Coherent) (coherent' : s'.Coherent)
    (absent : s.glue.lookup (lower stored.name) = none) (enters : s.Enters stored s')
    (glue : ∀ key, s'.glue.lookup key = s.glue.lookup key) :
    s.TraceFree s' ↔ s.listed stored.name = some stored := by
  have lists : s'.listed stored.name = some stored := by
    rw [listed_eq coherent', glue, absent, enters.here]
    split_ifs <;> rfl
  constructor
  · intro traceFree
    rw [← traceFree.lists, lists]
  · intro before
    refine ⟨glue, ?_, ?_⟩
    · intro name
      by_cases same : lower name = lower stored.name
      · have there : ∀ s : DatabaseState, s.listed name = s.listed stored.name := by
          intro s
          unfold listed find
          rw [same]
        rw [there, there, lists, before]
      · rw [listed_eq coherent', listed_eq coherent, enters.isLoaded, enters.others name same, glue]
    · intro name
      rw [returned_eq coherent', returned_eq coherent, glue]
      cases held : s.glue.lookup (lower name) with
      | none => rfl
      | some table =>
          have named : lower name = lower table.name := coherent.named _ _ held
          have other : lower table.name ≠ lower stored.name := by
            intro same
            rw [named, same, absent] at held
            cases held
          exact getEntry_info_congr (enters.others table.name other)

/-- A CREATE TABLE AS that fails after Glue created its table, in any run of statements
of the connection: it leaves no trace just where it failed in its execution and an entry
of its name and definition was listed before. It drops no table of another statement. -/
theorem createTableAs_traceFree_iff (glue : AList (fun _ : Text => GlueTableInfo))
    (named : ∀ key table, glue.lookup key = some table → key = lower table.name) (actions : List DatabaseAction)
    (run : Run Step { glue } actions s) (stored : GlueTableInfo) (fault : Option CreateTableAsFault)
    (failed : (s.createTableAs stored fault).2 = .failed) :
    (s.TraceFree (s.createTableAs stored fault).1 ↔
        fault = some .execution ∧ Readable stored ∧ s.listed stored.name = some stored) ∧
      ∀ name table, s.glue.lookup name = some table → (s.createTableAs stored fault).1.glue.lookup name = some table := by
  have start : DatabaseState.Coherent { glue } := ⟨by simp, by simp, named⟩
  have coherent : s.Coherent := run.invariant step_coherent start
  have created := createTableAs_cases coherent stored fault
  cases h : s.createTableAs stored fault with
  | mk s' outcome =>
      rw [h] at created failed
      simp only at failed
      subst failed
      rcases created with ⟨creates, early⟩ | ⟨coherent', absent, enters, executed, restored⟩
      · constructor
        · constructor
          · intro traceFree
            have kept := traceFree.glue (lower stored.name)
            simp only at kept
            rw [creates.glue, AList.lookup_insert, creates.absent] at kept
            cases kept
          · intro late
            exact absurd ⟨late.1, late.2.1⟩ early
        · intro name table held
          have differs : name ≠ lower stored.name := by
            intro same
            rw [same, creates.absent] at held
            cases held
          simp only
          rw [creates.glue, AList.lookup_insert_ne differs]
          exact held
      · constructor
        · rw [traceFree_of_enters coherent coherent' absent enters restored]
          simp [executed, enters.readable]
        · intro name table held
          exact (restored name).trans held

/-- The definition Glue stores of `CREATE TABLE t AS SELECT 1 AS id`. -/
def createdTable : GlueTableInfo :=
  { name := "t".toList, columns := [{ name := "id".toList, type := "int".toList }] }

/-- Failing in its execution into an empty database, the statement leaves its entry. -/
theorem createTableAs_leavesEntry :
    ∃ s : DatabaseState, Run Step {} [.startTransaction] s ∧
      (s.createTableAs createdTable (some .execution)).2 = .failed ∧
      ¬ s.TraceFree (s.createTableAs createdTable (some .execution)).1 := by
  refine ⟨_, .single rfl, by decide +kernel, ?_⟩
  intro traceFree
  have here := traceFree.lists "t".toList
  have listed := congrArg Option.isSome here
  revert listed
  decide +kernel

/-- The same failure leaves no trace once the entry of an earlier one is listed. -/
theorem createTableAs_traceFree_iff_again :
    ∃ s : DatabaseState, Run Step {} [.startTransaction, .createTableAs createdTable (some .execution)] s ∧
      s.TraceFree (s.createTableAs createdTable (some .execution)).1 := by
  have run : Run Step {} [.startTransaction, .createTableAs createdTable (some .execution)] _ :=
    .cons rfl (.cons rfl .nil)
  have listed : (step (step {} .startTransaction) (.createTableAs createdTable (some .execution))).listed createdTable.name =
      some createdTable := rfl
  exact ⟨_, run, (createTableAs_traceFree_iff ∅ (by simp) _ run createdTable (some .execution)
    (by decide +kernel)).1.mpr ⟨rfl, by unfold Readable; decide +kernel, listed⟩⟩

end DatabaseState

end DuckGlue
