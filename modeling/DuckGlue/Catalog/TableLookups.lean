import DuckGlue.Catalog.GlueTableSet
import DuckGlue.Catalog.GlueTransactionCache

/-! # The lookups of a table set

A lookup takes the name of the entry that is there, resolves the definition of the table
through the cache of its transaction, and then compares it with the entry that is there
now. The steps of any connections on one set, while any client changes what Glue holds.
-/

namespace DuckGlue

open StringUtil GlueTableSet

/-- The cached definition of a table and the lookup that holds the lock to load it. -/
structure TableCacheEntry where
  value : Option GlueTableInfo := none
  loading : Option ℕ := none

/-- How far a lookup has come in `GlueTransactionCache::GetTable`. -/
inductive LookupPhase where
  | started
  | found (entry : ℕ)
  | loading (entry : ℕ)
  | loaded (entry : ℕ) (table : Option GlueTableInfo)
  | resolved (table : Option GlueTableInfo)

namespace LookupPhase

/-- The definition a lookup holds. -/
def table : LookupPhase → Option GlueTableInfo
  | .loaded _ table | .resolved table => table
  | _ => none

/-- The cache entry a lookup waits for or loads. -/
def entry : LookupPhase → Option ℕ
  | .found entry | .loading entry | .loaded entry _ => some entry
  | _ => none

/-- The cache entry a lookup holds the lock of. -/
def locks : LookupPhase → Option ℕ
  | .loading entry | .loaded entry _ => some entry
  | _ => none

theorem entry_of_locks {phase : LookupPhase} {number : ℕ} (holds : phase.locks = some number) :
    phase.entry = some number := by
  cases phase with
  | loading entry | loaded entry => exact holds
  | started | found | resolved => cases holds

end LookupPhase

/-- A lookup in flight. -/
structure TableLookup (Transaction : Type) where
  transaction : Option Transaction
  /-- Null when no transaction is active. -/
  cache : Option ℕ
  name : Text
  /-- The name asked for, in the case the entry has it. -/
  glueName : Text
  /-- What the load of `LoadEntries` and `BulkLoadTableInfo` returns. -/
  fetched : Option GlueTableInfo := none
  phase : LookupPhase := .started

/-- A lookup that returned an entry, and the definition it had resolved. -/
structure TableAnswer (Transaction : Type) where
  transaction : Option Transaction
  name : Text
  table : GlueTableInfo
  entry : CatalogEntry

/-- The connection and the cache of a transaction. -/
structure GlueTransaction where
  connection : ℕ
  cache : ℕ
  /-- `glue_metadata_cache_scope` was 'connection'. -/
  connectionScoped : Bool

variable {Transaction : Type} [DecidableEq Transaction]

structure TableLookups (Transaction : Type) where
  databaseName : Text
  /-- What Glue holds in the database, by lower case name. -/
  glue : Text → Option GlueTableInfo := fun _ => none
  /-- Every definition read from Glue so far; no code keeps this. -/
  read : List GlueTableInfo := []
  transactions : Transaction → Option GlueTransaction := fun _ => none
  /-- `GlueMetadataCacheState` of each connection -/
  connectionCaches : ℕ → Option ℕ := fun _ => none
  cachesMade : ℕ := 0
  /-- The cache entry of each key of each cache. -/
  slots : ℕ → Text → Option ℕ := fun _ _ => none
  entries : ℕ → TableCacheEntry := fun _ => {}
  entriesMade : ℕ := 0
  set : GlueTableSet := {}
  /-- The entries of the set made so far are those of a lower number. -/
  objects : ℕ := 0
  lookups : ℕ → Option (TableLookup Transaction) := fun _ => none
  lookupsMade : ℕ := 0
  /-- Every entry returned so far; no code keeps this. -/
  answers : List (TableAnswer Transaction) := []

inductive TableAction (Transaction : Type) where
  /-- A client creates or alters a table or view in Glue. -/
  | define (table : GlueTableInfo)
  | drop (name : Text)
  /-- A page of `GetTables` has the table, or a write fetches it again. -/
  | readTable (name : Text)
  | beginTransaction (transaction : Transaction) (connection : ℕ) (connectionScoped : Bool)
  | invalidate (transaction : Transaction)
  | clearConnection (connection : ℕ)
  | eraseCache (connection : ℕ)
  | startLookup (transaction : Option Transaction) (name : Text)
  | startWarming (transaction : Transaction) (table : GlueTableInfo)
  | findEntry (lookup : ℕ)
  | answerCached (lookup : ℕ)
  | startLoad (lookup : ℕ)
  | finishLoad (lookup : ℕ)
  | failLoad (lookup : ℕ)
  | storeLoaded (lookup : ℕ)
  | askGlue (lookup : ℕ)
  | finishLookup (lookup : ℕ)
  | loadTable (table : GlueTableInfo)
  | createEntry (table : GlueTableInfo)
  | removeEntry (name : Text)

namespace TableLookups

variable (s : TableLookups Transaction)

def key (name : Text) : Text := cacheKey s.databaseName name

def readTable (name : Text) : TableLookups Transaction :=
  { s with read := s.read ++ (s.glue (lower name)).toList }

/-- The constructor of `GlueTransaction`, with `GetCache` of the connection's cache. -/
def beginTransaction (transaction : Transaction) (connection : ℕ) (connectionScoped : Bool) :
    TableLookups Transaction :=
  if connectionScoped then
    match s.connectionCaches connection with
    | some cache =>
        { s with transactions := Function.update s.transactions transaction (some ⟨connection, cache, true⟩) }
    | none =>
        { s with
          transactions := Function.update s.transactions transaction (some ⟨connection, s.cachesMade, true⟩)
          connectionCaches := Function.update s.connectionCaches connection (some s.cachesMade)
          cachesMade := s.cachesMade + 1 }
  else
    { s with
      transactions := Function.update s.transactions transaction (some ⟨connection, s.cachesMade, false⟩)
      cachesMade := s.cachesMade + 1 }

/-- `Clear` of a cache. -/
def clear (cache : ℕ) : TableLookups Transaction :=
  { s with slots := Function.update s.slots cache fun _ => none }

/-- `GlueTransactionCache::Of` -/
def cacheOf : Option Transaction → Option (Option ℕ)
  | none => some none
  | some transaction => (s.transactions transaction).map fun one => some one.cache

/-- The first critical section of `GetEntry`: the lookup name may differ in case from the
one Glue knows. -/
def glueName (name : Text) : Text :=
  match s.set.find name with
  | some existing => existing.info.name
  | none => name

def start (lookup : TableLookup Transaction) : TableLookups Transaction :=
  { s with
    lookups := Function.update s.lookups s.lookupsMade (some lookup)
    lookupsMade := s.lookupsMade + 1 }

def advance (number : ℕ) (lookup : TableLookup Transaction) (phase : LookupPhase) : TableLookups Transaction :=
  { s with lookups := Function.update s.lookups number (some { lookup with phase }) }

def setEntry (entry : ℕ) (content : TableCacheEntry) : TableLookups Transaction :=
  { s with entries := Function.update s.entries entry content }

/-- `FindEntry` where there is none. -/
def makeEntry (cache : ℕ) (key : Text) : TableLookups Transaction :=
  { s with
    slots := Function.update s.slots cache (Function.update (s.slots cache) key (some s.entriesMade))
    entries := Function.update s.entries s.entriesMade {}
    entriesMade := s.entriesMade + 1 }

/-- What a lookup returns, if it is an entry. -/
def answersOf (lookup : TableLookup Transaction) (table : Option GlueTableInfo) :
    Except Exception (Option CatalogEntry) → List (TableAnswer Transaction)
  | .ok (some entry) => table.toList.map fun table => ⟨lookup.transaction, lookup.name, table, entry⟩
  | _ => []

/-- The second critical section of `GetEntry`. -/
def finishLookup (number : ℕ) (lookup : TableLookup Transaction) (table : Option GlueTableInfo) :
    TableLookups Transaction :=
  let found := s.set.getEntry s.objects lookup.glueName table
  { s with
    set := found.1.set
    objects := s.objects + 1
    lookups := Function.update s.lookups number none
    answers := s.answers ++ answersOf lookup table found.2 }

def change (change : SetChange) : TableLookups Transaction := { s with set := change.set, objects := s.objects + 1 }

/-- One step of a thread of any connection, or of another client in Glue. -/
inductive Step : TableLookups Transaction → TableAction Transaction → TableLookups Transaction → Prop where
  | define {s : TableLookups Transaction} {table : GlueTableInfo} :
      Step s (.define table) { s with glue := Function.update s.glue (lower table.name) (some table) }
  | drop {s : TableLookups Transaction} {name : Text} :
      Step s (.drop name) { s with glue := Function.update s.glue (lower name) none }
  | readTable {s : TableLookups Transaction} {name : Text} : Step s (.readTable name) (s.readTable name)
  | beginTransaction {s : TableLookups Transaction} {transaction : Transaction} {connection : ℕ}
      {connectionScoped : Bool} (idle : s.transactions transaction = none) :
      Step s (.beginTransaction transaction connection connectionScoped)
        (s.beginTransaction transaction connection connectionScoped)
  /-- A write of the transaction clears its cache, then the connection's. -/
  | invalidate {s : TableLookups Transaction} {transaction : Transaction} {one : GlueTransaction}
      (running : s.transactions transaction = some one) : Step s (.invalidate transaction) (s.clear one.cache)
  | clearConnection {s : TableLookups Transaction} {connection cache : ℕ}
      (kept : s.connectionCaches connection = some cache) : Step s (.clearConnection connection) (s.clear cache)
  | eraseCache {s : TableLookups Transaction} {connection : ℕ} :
      Step s (.eraseCache connection)
        { s with connectionCaches := Function.update s.connectionCaches connection none }
  | startLookup {s : TableLookups Transaction} {transaction : Option Transaction} {name : Text} {cache : Option ℕ}
      (of : s.cacheOf transaction = some cache) :
      Step s (.startLookup transaction name) (s.start { transaction, cache, name, glueName := s.glueName name })
  /-- `LoadEntries` and `BulkLoadTableInfo` put the tables they fetched into the cache. -/
  | startWarming {s : TableLookups Transaction} {transaction : Transaction} {table : GlueTableInfo}
      {one : GlueTransaction} (running : s.transactions transaction = some one) (fetched : table ∈ s.read) :
      Step s (.startWarming transaction table)
        (s.start
          { transaction := some transaction, cache := some one.cache, name := table.name, glueName := table.name,
            fetched := some table })
  | findEntry {s : TableLookups Transaction} {number cache entry : ℕ} {lookup : TableLookup Transaction}
      (flying : s.lookups number = some lookup) (first : lookup.phase = .started) (in_ : lookup.cache = some cache)
      (slot : s.slots cache (s.key lookup.glueName) = some entry) :
      Step s (.findEntry number) (s.advance number lookup (.found entry))
  | makeEntry {s : TableLookups Transaction} {number cache : ℕ} {lookup : TableLookup Transaction}
      (flying : s.lookups number = some lookup) (first : lookup.phase = .started) (in_ : lookup.cache = some cache)
      (new : s.slots cache (s.key lookup.glueName) = none) :
      Step s (.findEntry number)
        ((s.makeEntry cache (s.key lookup.glueName)).advance number lookup (.found s.entriesMade))
  | answerCached {s : TableLookups Transaction} {number entry : ℕ} {lookup : TableLookup Transaction}
      {table : GlueTableInfo} (flying : s.lookups number = some lookup) (found : lookup.phase = .found entry)
      (unlocked : (s.entries entry).loading = none) (cached : (s.entries entry).value = some table) :
      Step s (.answerCached number) (s.advance number lookup (.resolved (some table)))
  | startLoad {s : TableLookups Transaction} {number entry : ℕ} {lookup : TableLookup Transaction}
      (flying : s.lookups number = some lookup) (found : lookup.phase = .found entry)
      (unlocked : (s.entries entry).loading = none) (empty : (s.entries entry).value = none) :
      Step s (.startLoad number) ((s.setEntry entry { loading := some number }).advance number lookup (.loading entry))
  | finishLoad {s : TableLookups Transaction} {number entry : ℕ} {lookup : TableLookup Transaction}
      (flying : s.lookups number = some lookup) (loads : lookup.phase = .loading entry) (asks : lookup.fetched = none) :
      Step s (.finishLoad number)
        ((s.readTable lookup.glueName).advance number lookup (.loaded entry (s.glue (lower lookup.glueName))))
  | takeFetched {s : TableLookups Transaction} {number entry : ℕ} {lookup : TableLookup Transaction}
      {table : GlueTableInfo} (flying : s.lookups number = some lookup) (loads : lookup.phase = .loading entry)
      (fetched : lookup.fetched = some table) :
      Step s (.finishLoad number) (s.advance number lookup (.loaded entry (some table)))
  /-- A load that throws leaves the entry empty. -/
  | failLoad {s : TableLookups Transaction} {number entry : ℕ} {lookup : TableLookup Transaction}
      (flying : s.lookups number = some lookup) (loads : lookup.phase = .loading entry) :
      Step s (.failLoad number)
        { s.setEntry entry {} with lookups := Function.update s.lookups number none }
  | storeLoaded {s : TableLookups Transaction} {number entry : ℕ} {lookup : TableLookup Transaction}
      {table : Option GlueTableInfo} (flying : s.lookups number = some lookup)
      (loaded : lookup.phase = .loaded entry table) :
      Step s (.storeLoaded number) ((s.setEntry entry { value := table }).advance number lookup (.resolved table))
  /-- A lookup with no transaction asks Glue itself. -/
  | askGlue {s : TableLookups Transaction} {number : ℕ} {lookup : TableLookup Transaction}
      (flying : s.lookups number = some lookup) (first : lookup.phase = .started) (alone : lookup.cache = none) :
      Step s (.askGlue number)
        ((s.readTable lookup.glueName).advance number lookup (.resolved (s.glue (lower lookup.glueName))))
  | finishLookup {s : TableLookups Transaction} {number : ℕ} {lookup : TableLookup Transaction}
      {table : Option GlueTableInfo} (flying : s.lookups number = some lookup)
      (resolved : lookup.phase = .resolved table) (looks : lookup.fetched = none) :
      Step s (.finishLookup number) (s.finishLookup number lookup table)
  /-- `LoadEntries` is one of these for each table of the list. -/
  | loadTable {s : TableLookups Transaction} {table : GlueTableInfo} (fetched : table ∈ s.read) :
      Step s (.loadTable table) (s.change (s.set.loadTable s.objects table))
  /-- A write builds the entry of what it has fetched from Glue. -/
  | createEntry {s : TableLookups Transaction} {table : GlueTableInfo} {entry : CatalogEntry}
      (fetched : table ∈ s.read) (built : buildEntry s.objects table = .ok entry) :
      Step s (.createEntry table) (s.change (s.set.createEntry entry))
  | removeEntry {s : TableLookups Transaction} {name : Text} :
      Step s (.removeEntry name) (s.change (s.set.removeEntry name))

/-- The steps of clients that give a name no definition that passes for the same version
as another one read from Glue under it. -/
def Meets : TableAction Transaction → Prop
  | .define table => ∀ earlier ∈ s.read, lower earlier.name = lower table.name →
      earlier.isSameVersion table = true → earlier = table
  | _ => True

def MeetingStep (s : TableLookups Transaction) (action : TableAction Transaction) (s' : TableLookups Transaction) :
    Prop :=
  s.Meets action ∧ Step s action s'

/-- A definition that was read from Glue or can be. -/
def Held (table : GlueTableInfo) : Prop := table ∈ s.read ∨ ∃ key, s.glue key = some table

/-- The definition a lookup has, whether it fetched it or was given it. -/
def Carries (table : GlueTableInfo) : Prop :=
  ∃ number lookup, s.lookups number = some lookup ∧ (lookup.fetched = some table ∨ lookup.phase.table = some table)

/-- What holds of the definitions in Glue, in the set, in the caches and in flight. -/
structure Known : Prop where
  named : ∀ key table, s.glue key = some table → lower table.name = key
  /-- The version tells what was read from Glue from what can be. -/
  distinct : ∀ earlier ∈ s.read, ∀ table, s.Held table → lower earlier.name = lower table.name →
    earlier.isSameVersion table = true → earlier = table
  listed : ∀ name entry, s.set.entries.lookup name = some entry → entry.info ∈ s.read ∧ lower entry.info.name = name
  cached : ∀ entry table, (s.entries entry).value = some table → table ∈ s.read
  carried : ∀ table, s.Carries table → table ∈ s.read
  answered : ∀ answer ∈ s.answers, answer.entry.info = answer.table

variable {s} {s' : TableLookups Transaction} {action : TableAction Transaction}

omit [DecidableEq Transaction] in
theorem known_init (databaseName : Text) : ({ databaseName } : TableLookups Transaction).Known where
  named := by simp
  distinct := by simp
  listed := by simp
  cached := by simp
  carried := by simp [Carries]
  answered := by simp

omit [DecidableEq Transaction] in
theorem mem_readTable {name : Text} {table : GlueTableInfo} :
    table ∈ (s.readTable name).read ↔ table ∈ s.read ∨ s.glue (lower name) = some table := by
  simp [readTable]

omit [DecidableEq Transaction] in
theorem Known.readTable (known : s.Known) (name : Text) : (s.readTable name).Known where
  named := known.named
  distinct := by
    intro earlier member table held named same
    have older : s.Held table := by
      rcases held with member | held
      · rcases mem_readTable.mp member with member | here
        · exact .inl member
        · exact .inr ⟨_, here⟩
      · exact .inr held
    rcases mem_readTable.mp member with member | here
    · exact known.distinct earlier member table older named same
    · rcases older with member | ⟨key, there⟩
      · exact (known.distinct table member earlier (.inr ⟨_, here⟩) named.symm (GlueTableInfo.isSameVersion_symm same)).symm
      · have keyed : key = lower name :=
          (known.named key table there).symm.trans (named.symm.trans (known.named _ _ here))
        rw [keyed, here] at there
        exact Option.some.inj there
  listed := fun name entry found =>
    ⟨mem_readTable.mpr (.inl (known.listed name entry found).1), (known.listed name entry found).2⟩
  cached := fun entry table value => mem_readTable.mpr (.inl (known.cached entry table value))
  carried := fun table carries => mem_readTable.mpr (.inl (known.carried table carries))
  answered := known.answered

omit [DecidableEq Transaction] in
/-- Where lookups change, they carry what was read. -/
theorem Known.withLookups (known : s.Known) {number made : ℕ} {lookup : Option (TableLookup Transaction)}
    (carries : ∀ one table, lookup = some one → one.fetched = some table ∨ one.phase.table = some table →
      table ∈ s.read) :
    { s with lookups := Function.update s.lookups number lookup, lookupsMade := made }.Known :=
  { known with
    carried := by
      rintro table ⟨other, one, flying, holds⟩
      by_cases same : other = number
      · subst same
        dsimp only at flying
        rw [Function.update_self] at flying
        exact carries one table flying holds
      · dsimp only at flying
        rw [Function.update_of_ne same] at flying
        exact known.carried table ⟨other, one, flying, holds⟩ }

omit [DecidableEq Transaction] in
theorem Known.advance (known : s.Known) {number : ℕ} {lookup : TableLookup Transaction} {phase : LookupPhase}
    (fetched : ∀ table, lookup.fetched = some table → table ∈ s.read)
    (holds : ∀ table, phase.table = some table → table ∈ s.read) : (s.advance number lookup phase).Known := by
  apply known.withLookups
  intro one table is carries
  cases is
  exact carries.elim (fetched table) (holds table)

omit [DecidableEq Transaction] in
theorem Known.setEntry (known : s.Known) {entry : ℕ} {content : TableCacheEntry}
    (value : ∀ table, content.value = some table → table ∈ s.read) : (s.setEntry entry content).Known :=
  { known with
    cached := by
      intro other table cached
      by_cases same : other = entry
      · subst same
        dsimp only [TableLookups.setEntry] at cached
        rw [Function.update_self] at cached
        exact value table cached
      · dsimp only [TableLookups.setEntry] at cached
        rw [Function.update_of_ne same] at cached
        exact known.cached other table cached }

omit [DecidableEq Transaction] in
theorem Known.change (known : s.Known) {change : SetChange}
    (listed : ∀ name entry, change.set.entries.lookup name = some entry →
      s.set.entries.lookup name = some entry ∨ entry.info ∈ s.read ∧ lower entry.info.name = name) :
    (s.change change).Known :=
  { known with listed := fun name entry found => (listed name entry found).elim (known.listed name entry) id }

omit [DecidableEq Transaction] in
theorem mem_answersOf {lookup : TableLookup Transaction} {table : Option GlueTableInfo}
    {result : Except Exception (Option CatalogEntry)} {answer : TableAnswer Transaction}
    (member : answer ∈ answersOf lookup table result) :
    answer.transaction = lookup.transaction ∧ answer.name = lookup.name ∧ table = some answer.table ∧
      result = .ok (some answer.entry) := by
  unfold answersOf at member
  split at member
  · obtain ⟨one, given, rfl⟩ := List.mem_map.mp member
    exact ⟨rfl, rfl, Option.mem_toList.mp given, rfl⟩
  · cases member

theorem Known.step (known : s.Known) (stepped : MeetingStep s action s') : s'.Known := by
  obtain ⟨meets, stepped⟩ := stepped
  have carried : ∀ {number : ℕ} {lookup : TableLookup Transaction}, s.lookups number = some lookup →
      ∀ table, lookup.fetched = some table → table ∈ s.read :=
    fun flying table fetched => known.carried table ⟨_, _, flying, .inl fetched⟩
  have holds : ∀ {number : ℕ} {lookup : TableLookup Transaction}, s.lookups number = some lookup →
      ∀ table, lookup.phase.table = some table → table ∈ s.read :=
    fun flying table held => known.carried table ⟨_, _, flying, .inr held⟩
  cases stepped with
  | @define table =>
      exact { known with
        named := by
          intro key other held
          by_cases same : key = lower table.name
          · subst same
            dsimp only at held
            rw [Function.update_self] at held
            cases held
            rfl
          · dsimp only at held
            rw [Function.update_of_ne same] at held
            exact known.named key other held
        distinct := by
          intro earlier member other held named same
          rcases held with member' | ⟨key, held⟩
          · exact known.distinct earlier member other (.inl member') named same
          · by_cases here : key = lower table.name
            · subst here
              dsimp only at held
              rw [Function.update_self] at held
              cases held
              exact meets earlier member named same
            · dsimp only at held
              rw [Function.update_of_ne here] at held
              exact known.distinct earlier member other (.inr ⟨key, held⟩) named same }
  | @drop name =>
      have kept : ∀ key table, Function.update s.glue (lower name) none key = some table → s.glue key = some table := by
        intro key table held
        by_cases same : key = lower name
        · subst same
          rw [Function.update_self] at held
          cases held
        · rwa [Function.update_of_ne same] at held
      exact { known with
        named := fun key table held => known.named key table (kept key table held)
        distinct := fun earlier member table held =>
          known.distinct earlier member table (held.imp_right fun ⟨key, there⟩ => ⟨key, kept key table there⟩) }
  | readTable => exact known.readTable _
  | beginTransaction idle =>
      unfold TableLookups.beginTransaction
      split_ifs
      · split
        · exact { known with }
        · exact { known with }
      · exact { known with }
  | invalidate | clearConnection | eraseCache => exact { known with }
  | startLookup of =>
      apply known.withLookups
      intro one table is carries
      cases is
      simp [LookupPhase.table] at carries
  | startWarming running fetched =>
      apply known.withLookups
      intro one other is carries
      cases is
      simp only [LookupPhase.table, Option.some.injEq, reduceCtorEq, or_false] at carries
      exact carries ▸ fetched
  | findEntry flying first in_ slot =>
      exact known.advance (carried flying) (by simp [LookupPhase.table])
  | makeEntry flying first in_ new =>
      have made : (s.setEntry s.entriesMade {}).Known := known.setEntry (by simp)
      have slotted : ∀ cache key, (s.makeEntry cache key).Known := fun cache key => { made with }
      exact (slotted _ _).advance (carried flying) (by simp [LookupPhase.table])
  | answerCached flying found unlocked cached =>
      apply known.advance (carried flying)
      rintro table ⟨⟩
      exact known.cached _ _ cached
  | startLoad flying found unlocked empty =>
      have locked := @Known.setEntry _ s known
      exact (locked (by simp)).advance (carried flying) (by simp [LookupPhase.table])
  | finishLoad flying loads asks =>
      apply (known.readTable _).advance
      · exact fun table fetched => mem_readTable.mpr (.inl (carried flying table fetched))
      · exact fun table found => mem_readTable.mpr (.inr found)
  | takeFetched flying loads fetched =>
      apply known.advance (carried flying)
      rintro table ⟨⟩
      exact carried flying _ fetched
  | failLoad flying loads =>
      have emptied := @Known.setEntry _ s known
      exact (emptied (by simp)).withLookups (by simp)
  | storeLoaded flying loaded =>
      have held := holds flying
      rw [loaded] at held
      have stored := @Known.setEntry _ s known
      exact (stored held).advance (carried flying) held
  | askGlue flying first alone =>
      apply (known.readTable _).advance
      · exact fun table fetched => mem_readTable.mpr (.inl (carried flying table fetched))
      · exact fun table found => mem_readTable.mpr (.inr found)
  | @finishLookup number lookup table flying resolved looks =>
      have held := holds flying
      rw [resolved] at held
      have removed : { s with lookups := Function.update s.lookups number none }.Known := known.withLookups (by simp)
      exact { removed with
        listed := by
          intro name entry found
          rcases lookup_getEntry found with there | ⟨given, named⟩
          · exact known.listed name entry there
          · exact ⟨held _ given, named⟩
        answered := by
          intro answer member
          rcases List.mem_append.mp member with older | newer
          · exact known.answered answer older
          · obtain ⟨-, -, rfl, returned⟩ := mem_answersOf newer
            rcases getEntry_info returned with same | ⟨there, same⟩
            · exact same
            · obtain ⟨member, named⟩ := known.listed _ _ there
              exact known.distinct _ member _ (.inl (held _ rfl)) named same }
  | loadTable fetched =>
      apply known.change
      intro name entry found
      rcases lookup_loadTable found with there | ⟨rfl, named⟩
      · exact .inl there
      · exact .inr ⟨fetched, named⟩
  | createEntry fetched built =>
      apply known.change
      intro name entry found
      rcases lookup_emplace found with there | ⟨rfl, named⟩
      · exact .inl there
      · exact .inr ⟨buildEntry_info built ▸ fetched, named⟩
  | removeEntry =>
      apply known.change
      exact fun name entry found => .inl (lookup_retireEntry found)

theorem known_of_run {databaseName : Text} {actions : List (TableAction Transaction)}
    (run : Run MeetingStep { databaseName } actions s) : s.Known :=
  run.invariant (fun stepped known => known.step stepped) (known_init databaseName)

variable (s)

/-- What holds of the caches and the locks of their entries. -/
structure Guarded : Prop where
  begunMade : ∀ transaction one, s.transactions transaction = some one → one.cache < s.cachesMade
  keptMade : ∀ connection cache, s.connectionCaches connection = some cache → cache < s.cachesMade
  /-- Under the default scope a transaction has its cache for itself. -/
  private_ : ∀ transaction one, s.transactions transaction = some one → one.connectionScoped = false →
    (∀ connection, s.connectionCaches connection ≠ some one.cache) ∧
      ∀ other another, s.transactions other = some another → another.cache = one.cache → other = transaction
  slotMade : ∀ cache key entry, s.slots cache key = some entry → entry < s.entriesMade
  enteredMade : ∀ number lookup entry, s.lookups number = some lookup → lookup.phase.entry = some entry →
    entry < s.entriesMade
  /-- An entry is empty while a lookup loads it. -/
  locked : ∀ number lookup entry, s.lookups number = some lookup → lookup.phase.locks = some entry →
    (s.entries entry).loading = some number ∧ (s.entries entry).value = none

variable {s}

omit [DecidableEq Transaction] in
theorem guarded_init (databaseName : Text) : ({ databaseName } : TableLookups Transaction).Guarded where
  begunMade := by simp
  keptMade := by simp
  private_ := by simp
  slotMade := by simp
  enteredMade := by simp
  locked := by simp

omit [DecidableEq Transaction] in
theorem Guarded.withLookups (guarded : s.Guarded) {number made : ℕ} {lookup : Option (TableLookup Transaction)}
    (entered : ∀ one entry, lookup = some one → one.phase.entry = some entry → entry < s.entriesMade)
    (locks : ∀ one entry, lookup = some one → one.phase.locks = some entry →
      (s.entries entry).loading = some number ∧ (s.entries entry).value = none) :
    { s with lookups := Function.update s.lookups number lookup, lookupsMade := made }.Guarded :=
  { guarded with
    enteredMade := by
      intro other one entry flying enters
      by_cases same : other = number
      · subst same
        dsimp only at flying
        rw [Function.update_self] at flying
        exact entered one entry flying enters
      · dsimp only at flying
        rw [Function.update_of_ne same] at flying
        exact guarded.enteredMade other one entry flying enters
    locked := by
      intro other one entry flying holds
      by_cases same : other = number
      · subst same
        dsimp only at flying
        rw [Function.update_self] at flying
        exact locks one entry flying holds
      · dsimp only at flying
        rw [Function.update_of_ne same] at flying
        exact guarded.locked other one entry flying holds }

omit [DecidableEq Transaction] in
/-- The lock of an entry changes hands where no other lookup holds it. -/
theorem Guarded.setEntry (guarded : s.Guarded) {entry : ℕ} {content : TableCacheEntry}
    (alone : ∀ number lookup, s.lookups number = some lookup → lookup.phase.locks = some entry →
      content.loading = some number ∧ content.value = none) : (s.setEntry entry content).Guarded :=
  { guarded with
    locked := by
      intro number lookup other flying holds
      by_cases same : other = entry
      · subst same
        dsimp only [TableLookups.setEntry]
        rw [Function.update_self]
        exact alone number lookup flying holds
      · dsimp only [TableLookups.setEntry]
        rw [Function.update_of_ne same]
        exact guarded.locked number lookup other flying holds }

theorem Guarded.beginTransaction (guarded : s.Guarded) {transaction : Transaction} {connection : ℕ}
    {connectionScoped : Bool} (idle : s.transactions transaction = none) :
    (s.beginTransaction transaction connection connectionScoped).Guarded := by
  have older : ∀ {other one made}, Function.update s.transactions transaction (some made) other = some one →
      other = transaction ∧ made = one ∨ other ≠ transaction ∧ s.transactions other = some one := by
    intro other one made running
    by_cases same : other = transaction
    · subst same
      rw [Function.update_self] at running
      exact .inl ⟨rfl, Option.some.inj running⟩
    · rw [Function.update_of_ne same] at running
      exact .inr ⟨same, running⟩
  unfold TableLookups.beginTransaction
  split_ifs
  · split
    · rename_i cache kept
      exact { guarded with
        begunMade := by
          intro other one running
          rcases older running with ⟨rfl, rfl⟩ | ⟨-, running⟩
          · exact guarded.keptMade connection cache kept
          · exact guarded.begunMade other one running
        private_ := by
          intro other one running scope
          rcases older running with ⟨rfl, rfl⟩ | ⟨differs, running⟩
          · cases scope
          · obtain ⟨apart, only⟩ := guarded.private_ other one running scope
            refine ⟨apart, fun third another begun same => ?_⟩
            rcases older begun with ⟨rfl, rfl⟩ | ⟨-, begun⟩
            · exact absurd (same ▸ kept) (apart connection)
            · exact only third another begun same }
    · exact { guarded with
        begunMade := by
          intro other one running
          rcases older running with ⟨rfl, rfl⟩ | ⟨-, running⟩
          · exact Nat.lt_succ_self _
          · exact Nat.lt_succ_of_lt (guarded.begunMade other one running)
        keptMade := by
          intro other cache kept
          by_cases same : other = connection
          · subst same
            dsimp only at kept
            rw [Function.update_self] at kept
            cases kept
            exact Nat.lt_succ_self _
          · dsimp only at kept
            rw [Function.update_of_ne same] at kept
            exact Nat.lt_succ_of_lt (guarded.keptMade other cache kept)
        private_ := by
          intro other one running scope
          rcases older running with ⟨rfl, rfl⟩ | ⟨differs, running⟩
          · cases scope
          · obtain ⟨apart, only⟩ := guarded.private_ other one running scope
            have made := guarded.begunMade other one running
            constructor
            · intro third kept
              by_cases same : third = connection
              · subst same
                dsimp only at kept
                rw [Function.update_self, Option.some.injEq] at kept
                omega
              · dsimp only at kept
                rw [Function.update_of_ne same] at kept
                exact apart third kept
            · intro third another begun same
              rcases older begun with ⟨rfl, rfl⟩ | ⟨-, begun⟩
              · dsimp only at same
                omega
              · exact only third another begun same }
  · exact { guarded with
      begunMade := by
        intro other one running
        rcases older running with ⟨rfl, rfl⟩ | ⟨-, running⟩
        · exact Nat.lt_succ_self _
        · exact Nat.lt_succ_of_lt (guarded.begunMade other one running)
      keptMade := fun other cache kept => Nat.lt_succ_of_lt (guarded.keptMade other cache kept)
      private_ := by
        intro other one running scope
        rcases older running with ⟨rfl, rfl⟩ | ⟨differs, running⟩
        · constructor
          · intro third kept
            have made := guarded.keptMade third _ kept
            exact absurd made (Nat.lt_irrefl _)
          · intro third another begun same
            rcases older begun with ⟨rfl, rfl⟩ | ⟨-, begun⟩
            · rfl
            · have made := guarded.begunMade third another begun
              dsimp only at same
              omega
        · obtain ⟨apart, only⟩ := guarded.private_ other one running scope
          have made := guarded.begunMade other one running
          refine ⟨apart, fun third another begun same => ?_⟩
          rcases older begun with ⟨rfl, rfl⟩ | ⟨-, begun⟩
          · dsimp only at same
            omega
          · exact only third another begun same }

omit [DecidableEq Transaction] in
theorem Guarded.clear (guarded : s.Guarded) (cache : ℕ) : (s.clear cache).Guarded :=
  { guarded with
    slotMade := by
      intro other key entry slot
      by_cases same : other = cache
      · subst same
        dsimp only [TableLookups.clear] at slot
        rw [Function.update_self] at slot
        cases slot
      · dsimp only [TableLookups.clear] at slot
        rw [Function.update_of_ne same] at slot
        exact guarded.slotMade other key entry slot }

omit [DecidableEq Transaction] in
theorem Guarded.makeEntry (guarded : s.Guarded) (cache : ℕ) (key : Text) : (s.makeEntry cache key).Guarded := by
  have cleared : (s.setEntry s.entriesMade {}).Guarded := by
    apply guarded.setEntry
    intro number lookup flying holds
    have made := guarded.enteredMade number lookup _ flying (LookupPhase.entry_of_locks holds)
    exact absurd made (Nat.lt_irrefl _)
  exact { cleared with
    slotMade := by
      intro other name entry slot
      by_cases same : other = cache
      · subst same
        dsimp only [TableLookups.makeEntry] at slot
        rw [Function.update_self] at slot
        by_cases here : name = key
        · subst here
          rw [Function.update_self] at slot
          cases slot
          exact Nat.lt_succ_self _
        · rw [Function.update_of_ne here] at slot
          exact Nat.lt_succ_of_lt (guarded.slotMade other name entry slot)
      · dsimp only [TableLookups.makeEntry] at slot
        rw [Function.update_of_ne same] at slot
        exact Nat.lt_succ_of_lt (guarded.slotMade other name entry slot)
    enteredMade := fun number lookup entry flying enters =>
      Nat.lt_succ_of_lt (guarded.enteredMade number lookup entry flying enters) }

omit [DecidableEq Transaction] in
/-- Once a lookup gives up its lock, no other holds it. -/
theorem Guarded.unlock (guarded : s.Guarded) {number entry : ℕ} {lookup : TableLookup Transaction}
    {next : Option (TableLookup Transaction)} {content : TableCacheEntry}
    (flying : s.lookups number = some lookup) (holds : lookup.phase.locks = some entry)
    (freed : ∀ one, next = some one → one.phase.entry = none) :
    { s.setEntry entry content with lookups := Function.update s.lookups number next }.Guarded := by
  have left : { s with lookups := Function.update s.lookups number next }.Guarded := by
    apply guarded.withLookups
    · intro one other is enters
      rw [freed one is] at enters
      cases enters
    · intro one other is locks
      have enters := LookupPhase.entry_of_locks locks
      rw [freed one is] at enters
      cases enters
  apply left.setEntry
  intro other one there locks
  exfalso
  by_cases same : other = number
  · subst same
    dsimp only at there
    rw [Function.update_self] at there
    have enters := LookupPhase.entry_of_locks locks
    rw [freed one there] at enters
    cases enters
  · dsimp only at there
    rw [Function.update_of_ne same] at there
    have mine := (guarded.locked number lookup entry flying holds).1
    have others := (guarded.locked other one entry there locks).1
    rw [mine, Option.some.injEq] at others
    exact same others.symm

theorem Guarded.step (guarded : s.Guarded) (stepped : Step s action s') : s'.Guarded := by
  cases stepped with
  | define | drop | readTable | loadTable | createEntry | removeEntry => exact { guarded with }
  | beginTransaction idle => exact guarded.beginTransaction idle
  | invalidate | clearConnection => exact guarded.clear _
  | @eraseCache connection =>
      have kept : ∀ {other cache}, Function.update s.connectionCaches connection none other = some cache →
          s.connectionCaches other = some cache := by
        intro other cache there
        by_cases same : other = connection
        · subst same
          rw [Function.update_self] at there
          cases there
        · rwa [Function.update_of_ne same] at there
      exact { guarded with
        keptMade := fun other cache there => guarded.keptMade other cache (kept there)
        private_ := fun transaction one running scope =>
          (guarded.private_ transaction one running scope).imp_left fun apart other there => apart other (kept there) }
  | startLookup of =>
      apply guarded.withLookups
      · rintro one entry ⟨⟩ ⟨⟩
      · rintro one entry ⟨⟩ ⟨⟩
  | startWarming running fetched =>
      apply guarded.withLookups
      · rintro one entry ⟨⟩ ⟨⟩
      · rintro one entry ⟨⟩ ⟨⟩
  | findEntry flying first in_ slot =>
      apply guarded.withLookups
      · rintro one entry ⟨⟩ ⟨⟩
        exact guarded.slotMade _ _ _ slot
      · rintro one entry ⟨⟩ ⟨⟩
  | makeEntry flying first in_ new =>
      apply (guarded.makeEntry _ _).withLookups
      · rintro one entry ⟨⟩ ⟨⟩
        exact Nat.lt_succ_self _
      · rintro one entry ⟨⟩ ⟨⟩
  | answerCached flying found unlocked cached =>
      apply guarded.withLookups
      · rintro one entry ⟨⟩ ⟨⟩
      · rintro one entry ⟨⟩ ⟨⟩
  | @startLoad number entry lookup flying found unlocked empty =>
      have set : (s.setEntry entry { loading := some number }).Guarded := by
        apply guarded.setEntry
        intro other one there locks
        have taken := (guarded.locked other one entry there locks).1
        rw [unlocked] at taken
        cases taken
      apply set.withLookups
      · rintro one other ⟨⟩ ⟨⟩
        exact guarded.enteredMade number lookup entry flying (by rw [found]; rfl)
      · rintro one other ⟨⟩ ⟨⟩
        simp [TableLookups.setEntry]
  | finishLoad flying loads asks =>
      have read : ∀ name, (s.readTable name).Guarded := fun name => { guarded with }
      apply (read _).withLookups
      · rintro one other ⟨⟩ ⟨⟩
        exact guarded.enteredMade _ _ _ flying (by rw [loads]; rfl)
      · rintro one other ⟨⟩ ⟨⟩
        exact guarded.locked _ _ _ flying (by rw [loads]; rfl)
  | takeFetched flying loads fetched =>
      apply guarded.withLookups
      · rintro one other ⟨⟩ ⟨⟩
        exact guarded.enteredMade _ _ _ flying (by rw [loads]; rfl)
      · rintro one other ⟨⟩ ⟨⟩
        exact guarded.locked _ _ _ flying (by rw [loads]; rfl)
  | failLoad flying loads =>
      apply guarded.unlock flying (by rw [loads]; rfl)
      rintro one ⟨⟩
  | storeLoaded flying loaded =>
      apply guarded.unlock flying (by rw [loaded]; rfl)
      rintro one ⟨⟩
      rfl
  | askGlue flying first alone =>
      have read : ∀ name, (s.readTable name).Guarded := fun name => { guarded with }
      apply (read _).withLookups
      · rintro one entry ⟨⟩ ⟨⟩
      · rintro one entry ⟨⟩ ⟨⟩
  | @finishLookup number lookup table flying resolved looks =>
      have removed : { s with lookups := Function.update s.lookups number none }.Guarded := by
        apply guarded.withLookups
        · rintro one entry ⟨⟩
        · rintro one entry ⟨⟩
      exact { removed with }

variable (s)

/-- The cache holds the definition under the key. -/
def Cached (cache : ℕ) (key : Text) (table : GlueTableInfo) : Prop :=
  ∃ entry, s.slots cache key = some entry ∧ (s.entries entry).value = some table

/-- A lookup of a transaction with its own cache, as far as it has come. -/
structure Follows (cache : ℕ) (lookup : TableLookup Transaction) : Prop where
  in_ : lookup.cache = some cache
  named : lower lookup.glueName = lower lookup.name
  found : ∀ entry, lookup.phase.entry = some entry → s.slots cache (s.key lookup.glueName) = some entry
  resolved : ∀ table, lookup.phase = .resolved (some table) → s.Cached cache (s.key lookup.glueName) table

/-- What the lookups of a transaction with its own cache resolve stays in it. -/
structure Settled (transaction : Transaction) : Prop where
  begun : s.transactions transaction = none →
    (∀ number lookup, s.lookups number = some lookup → lookup.transaction ≠ some transaction) ∧
      ∀ answer ∈ s.answers, answer.transaction ≠ some transaction
  follows : ∀ one, s.transactions transaction = some one → one.connectionScoped = false → ∀ number lookup,
    s.lookups number = some lookup → lookup.transaction = some transaction → s.Follows one.cache lookup
  answered : ∀ one, s.transactions transaction = some one → one.connectionScoped = false → ∀ answer ∈ s.answers,
    answer.transaction = some transaction → s.Cached one.cache (s.key answer.name) answer.table

/-- A step that drops and overwrites nothing of a cache. -/
structure Keeps (cache : ℕ) (s' : TableLookups Transaction) : Prop where
  databaseName : s'.databaseName = s.databaseName
  slots : ∀ key entry, s.slots cache key = some entry → s'.slots cache key = some entry
  values : ∀ key entry table, s.slots cache key = some entry → (s.entries entry).value = some table →
    (s'.entries entry).value = some table

variable {s} {cache : ℕ}

omit [DecidableEq Transaction] in
theorem key_congr {name other : Text} (same : lower name = lower other) : s.key name = s.key other := by
  simp only [key, cacheKey, lower_append, same]

omit [DecidableEq Transaction] in
theorem Keeps.key (keeps : s.Keeps cache s') (name : Text) : s'.key name = s.key name := by
  rw [TableLookups.key, TableLookups.key, keeps.databaseName]

omit [DecidableEq Transaction] in
theorem Keeps.cached (keeps : s.Keeps cache s') {key : Text} {table : GlueTableInfo}
    (cached : s.Cached cache key table) : s'.Cached cache key table := by
  obtain ⟨entry, slot, value⟩ := cached
  exact ⟨entry, keeps.slots key entry slot, keeps.values key entry table slot value⟩

omit [DecidableEq Transaction] in
theorem Keeps.follows (keeps : s.Keeps cache s') {lookup : TableLookup Transaction} (follows : s.Follows cache lookup) :
    s'.Follows cache lookup where
  in_ := follows.in_
  named := follows.named
  found := fun entry enters => by
    rw [keeps.key]
    exact keeps.slots _ entry (follows.found entry enters)
  resolved := fun table resolved => by
    rw [keeps.key]
    exact keeps.cached (follows.resolved table resolved)

omit [DecidableEq Transaction] in
theorem keeps_clear {other : ℕ} (differs : cache ≠ other) : s.Keeps cache (s.clear other) where
  databaseName := rfl
  slots := by
    intro key entry slot
    dsimp only [TableLookups.clear]
    rwa [Function.update_of_ne differs]
  values := fun _ _ _ _ value => value

omit [DecidableEq Transaction] in
/-- The value of an entry that holds one is not overwritten. -/
theorem keeps_setEntry {entry : ℕ} {content : TableCacheEntry} (empty : (s.entries entry).value = none) :
    s.Keeps cache (s.setEntry entry content) where
  databaseName := rfl
  slots := fun _ _ slot => slot
  values := by
    intro key other table slot value
    have differs : other ≠ entry := by
      rintro rfl
      rw [empty] at value
      cases value
    dsimp only [TableLookups.setEntry]
    rwa [Function.update_of_ne differs]

omit [DecidableEq Transaction] in
theorem keeps_makeEntry (guarded : s.Guarded) {other : ℕ} {key : Text} (new : s.slots other key = none) :
    s.Keeps cache (s.makeEntry other key) where
  databaseName := rfl
  slots := by
    intro name entry slot
    dsimp only [TableLookups.makeEntry]
    by_cases same : cache = other
    · subst same
      have differs : name ≠ key := by
        rintro rfl
        rw [new] at slot
        cases slot
      rwa [Function.update_self, Function.update_of_ne differs]
    · rwa [Function.update_of_ne same]
  values := by
    intro name entry table slot value
    have made := guarded.slotMade cache name entry slot
    dsimp only [TableLookups.makeEntry]
    rwa [Function.update_of_ne made.ne]

variable {transaction : Transaction}

/-- No step but the transaction's own writes drops anything of its own cache. -/
theorem Step.keeps (stepped : Step s action s') (guarded : s.Guarded) (others : action ≠ .invalidate transaction)
    {one : GlueTransaction} (running : s.transactions transaction = some one) (own : one.connectionScoped = false) :
    s.Keeps one.cache s' := by
  obtain ⟨apart, only⟩ := guarded.private_ transaction one running own
  have empty : ∀ {number lookup entry}, s.lookups number = some lookup → lookup.phase.locks = some entry →
      (s.entries entry).value = none :=
    fun flying locks => (guarded.locked _ _ _ flying locks).2
  cases stepped with
  | define | drop | readTable | eraseCache | startLookup | startWarming | findEntry | answerCached | finishLoad
  | takeFetched | askGlue | finishLookup | loadTable | createEntry | removeEntry =>
      exact ⟨rfl, fun _ _ slot => slot, fun _ _ _ _ value => value⟩
  | beginTransaction idle =>
      unfold TableLookups.beginTransaction
      split_ifs
      · split
        · exact ⟨rfl, fun _ _ slot => slot, fun _ _ _ _ value => value⟩
        · exact ⟨rfl, fun _ _ slot => slot, fun _ _ _ _ value => value⟩
      · exact ⟨rfl, fun _ _ slot => slot, fun _ _ _ _ value => value⟩
  | @invalidate other another there =>
      apply keeps_clear
      intro same
      apply others
      rw [only other another there same.symm]
  | @clearConnection connection shared kept =>
      apply keeps_clear
      rintro rfl
      exact apart connection kept
  | makeEntry flying first in_ new =>
      have keeps := @keeps_makeEntry _ s one.cache guarded _ _ new
      exact ⟨rfl, keeps.slots, keeps.values⟩
  | @startLoad number entry lookup flying found unlocked new =>
      have keeps := @keeps_setEntry _ s one.cache _ { loading := some number } new
      exact ⟨rfl, keeps.slots, keeps.values⟩
  | failLoad flying loads =>
      have keeps := @keeps_setEntry _ s one.cache _ {} (empty flying (by rw [loads]; rfl))
      exact ⟨rfl, keeps.slots, keeps.values⟩
  | @storeLoaded number entry lookup table flying loaded =>
      have keeps := @keeps_setEntry _ s one.cache _ { value := table } (empty flying (by rw [loaded]; rfl))
      exact ⟨rfl, keeps.slots, keeps.values⟩

omit [DecidableEq Transaction] in
theorem settled_init (databaseName : Text) : ({ databaseName } : TableLookups Transaction).Settled transaction where
  begun := by simp
  follows := by simp
  answered := by simp

/-- A step that leaves the transactions alone: what is new in flight follows the cache,
and what is new among the answers is in it. -/
theorem Settled.of_step (settled : s.Settled transaction) (guarded : s.Guarded) (stepped : Step s action s')
    (others : action ≠ .invalidate transaction) (begun : s'.transactions transaction = s.transactions transaction)
    (flying : ∀ number lookup, s'.lookups number = some lookup → s.lookups number = some lookup ∨
      (lookup.transaction = some transaction → s.transactions transaction ≠ none ∧
        ∀ one, s.transactions transaction = some one → one.connectionScoped = false → s'.Follows one.cache lookup))
    (returned : ∀ answer ∈ s'.answers, answer ∈ s.answers ∨
      (answer.transaction = some transaction → s.transactions transaction ≠ none ∧
        ∀ one, s.transactions transaction = some one → one.connectionScoped = false →
          s'.Cached one.cache (s'.key answer.name) answer.table)) : s'.Settled transaction where
  begun := by
    intro idle
    rw [begun] at idle
    constructor
    · intro number lookup there mine
      rcases flying number lookup there with older | newer
      · exact (settled.begun idle).1 number lookup older mine
      · exact (newer mine).1 idle
    · intro answer member mine
      rcases returned answer member with older | newer
      · exact (settled.begun idle).2 answer older mine
      · exact (newer mine).1 idle
  follows := by
    intro one running own number lookup there mine
    rw [begun] at running
    rcases flying number lookup there with older | newer
    · exact (stepped.keeps guarded others running own).follows (settled.follows one running own number lookup older mine)
    · exact (newer mine).2 one running own
  answered := by
    intro one running own answer member mine
    rw [begun] at running
    rcases returned answer member with older | newer
    · have keeps := stepped.keeps guarded others running own
      rw [keeps.key]
      exact keeps.cached (settled.answered one running own answer older mine)
    · exact (newer mine).2 one running own

/-- The lookups of a step that takes one further. -/
theorem Settled.advance (settled : s.Settled transaction) (guarded : s.Guarded) (stepped : Step s action s')
    (others : action ≠ .invalidate transaction) (begun : s'.transactions transaction = s.transactions transaction)
    (returned : s'.answers = s.answers) {number : ℕ} {lookup : TableLookup Transaction} {phase : LookupPhase}
    (flying : s.lookups number = some lookup)
    (advanced : s'.lookups = Function.update s.lookups number (some { lookup with phase }))
    (found : ∀ cache entry, s.Follows cache lookup → phase.entry = some entry →
      s'.slots cache (s.key lookup.glueName) = some entry)
    (resolved : ∀ cache table, s.Follows cache lookup → phase = .resolved (some table) →
      s'.Cached cache (s.key lookup.glueName) table) : s'.Settled transaction := by
  apply settled.of_step guarded stepped others begun
  · intro other one there
    by_cases same : other = number
    · subst same
      rw [advanced, Function.update_self] at there
      cases there
      right
      intro mine
      constructor
      · intro idle
        exact (settled.begun idle).1 other lookup flying mine
      · intro one running own
        have follows := settled.follows one running own other lookup flying mine
        have keeps := stepped.keeps guarded others running own
        constructor
        · exact follows.in_
        · exact follows.named
        · intro entry enters
          rw [keeps.key]
          exact found one.cache entry follows enters
        · intro table is
          rw [keeps.key]
          exact resolved one.cache table follows is
    · rw [advanced, Function.update_of_ne same] at there
      exact .inl there
  · intro answer member
    rw [returned] at member
    exact .inl member

omit [DecidableEq Transaction] in
/-- The name a lookup asks for is its own in another case. -/
theorem lower_glueName (known : s.Known) (name : Text) : lower (s.glueName name) = lower name := by
  unfold glueName
  cases found : s.set.find name with
  | none => rfl
  | some existing => exact (known.listed _ existing found).2

/-- A lookup starts with the cache of its transaction. -/
theorem Settled.start (settled : s.Settled transaction) (guarded : s.Guarded) {lookup : TableLookup Transaction}
    (stepped : Step s action (s.start lookup)) (others : action ≠ .invalidate transaction)
    (first : lookup.phase = .started) (named : lower lookup.glueName = lower lookup.name)
    (of : ∀ one, lookup.transaction = some one →
      ∃ begun, s.transactions one = some begun ∧ lookup.cache = some begun.cache) :
    (s.start lookup).Settled transaction := by
  apply settled.of_step guarded stepped others rfl
  · intro number one there
    by_cases same : number = s.lookupsMade
    · subst same
      dsimp only [TableLookups.start] at there
      rw [Function.update_self] at there
      cases there
      right
      intro mine
      obtain ⟨begun, running, in_⟩ := of transaction mine
      constructor
      · simp [running]
      · intro other running' own
        rw [running] at running'
        cases running'
        exact ⟨in_, named, by simp [first, LookupPhase.entry], by simp [first]⟩
    · dsimp only [TableLookups.start] at there
      rw [Function.update_of_ne same] at there
      exact .inl there
  · exact fun _ member => .inl member

theorem Settled.begin_ (settled : s.Settled transaction) (guarded : s.Guarded) {other : Transaction} {connection : ℕ}
    {connectionScoped : Bool}
    (stepped : Step s (.beginTransaction other connection connectionScoped)
      (s.beginTransaction other connection connectionScoped))
    (idle : s.transactions other = none) :
    (s.beginTransaction other connection connectionScoped).Settled transaction := by
  have changes : ∃ made, (s.beginTransaction other connection connectionScoped).transactions =
      Function.update s.transactions other (some made) := by
    unfold TableLookups.beginTransaction
    split_ifs
    · split <;> exact ⟨_, rfl⟩
    · exact ⟨_, rfl⟩
  have same : (s.beginTransaction other connection connectionScoped).lookups = s.lookups ∧
      (s.beginTransaction other connection connectionScoped).answers = s.answers := by
    unfold TableLookups.beginTransaction
    split_ifs
    · split <;> exact ⟨rfl, rfl⟩
    · exact ⟨rfl, rfl⟩
  obtain ⟨made, begun⟩ := changes
  by_cases here : transaction = other
  · subst here
    -- nothing is known of a transaction before it begins
    obtain ⟨looked, answered⟩ := settled.begun idle
    constructor
    · intro never
      rw [begun, Function.update_self] at never
      cases never
    · intro one running own number lookup flying mine
      rw [same.1] at flying
      exact absurd mine (looked number lookup flying)
    · intro one running own answer member mine
      rw [same.2] at member
      exact absurd mine (answered answer member)
  · apply settled.of_step guarded stepped (by simp) (by rw [begun, Function.update_of_ne here])
    · rw [same.1]
      exact fun _ _ there => .inl there
    · rw [same.2]
      exact fun _ member => .inl member

theorem Settled.step (settled : s.Settled transaction) (known : s.Known) (guarded : s.Guarded)
    (stepped : Step s action s') (others : action ≠ .invalidate transaction) : s'.Settled transaction := by
  have taken := stepped
  have removed : ∀ {number other : ℕ} {lookup : TableLookup Transaction},
      Function.update s.lookups number none other = some lookup → s.lookups other = some lookup := by
    intro number other lookup there
    by_cases same : other = number
    · subst same
      rw [Function.update_self] at there
      cases there
    · rwa [Function.update_of_ne same] at there
  cases stepped with
  | define | drop | readTable | invalidate | clearConnection | eraseCache | loadTable | createEntry | removeEntry =>
      exact settled.of_step guarded taken others rfl (fun _ _ there => .inl there) fun _ member => .inl member
  | beginTransaction idle => exact settled.begin_ guarded taken idle
  | startLookup of =>
      apply settled.start guarded taken others rfl (lower_glueName known _)
      rintro one rfl
      obtain ⟨begun, running, rfl⟩ := Option.map_eq_some_iff.mp of
      exact ⟨begun, running, rfl⟩
  | startWarming running fetched =>
      apply settled.start guarded taken others rfl rfl
      rintro one ⟨⟩
      exact ⟨_, running, rfl⟩
  | findEntry flying first in_ slot =>
      apply settled.advance guarded taken others rfl rfl flying rfl
      · rintro cache entry follows ⟨⟩
        obtain rfl := Option.some.inj (in_.symm.trans follows.in_)
        exact slot
      · rintro cache table follows ⟨⟩
  | makeEntry flying first in_ new =>
      apply settled.advance guarded taken others rfl rfl flying rfl
      · rintro cache entry follows ⟨⟩
        obtain rfl := Option.some.inj (in_.symm.trans follows.in_)
        simp [TableLookups.advance, TableLookups.makeEntry]
      · rintro cache table follows ⟨⟩
  | answerCached flying found unlocked cached =>
      apply settled.advance guarded taken others rfl rfl flying rfl
      · rintro cache entry follows ⟨⟩
      · rintro cache table follows ⟨⟩
        exact ⟨_, follows.found _ (by rw [found]; rfl), cached⟩
  | startLoad flying found unlocked empty =>
      apply settled.advance guarded taken others rfl rfl flying rfl
      · rintro cache entry follows ⟨⟩
        exact follows.found _ (by rw [found]; rfl)
      · rintro cache table follows ⟨⟩
  | finishLoad flying loads asks =>
      apply settled.advance guarded taken others rfl rfl flying rfl
      · rintro cache entry follows ⟨⟩
        exact follows.found _ (by rw [loads]; rfl)
      · rintro cache table follows ⟨⟩
  | takeFetched flying loads fetched =>
      apply settled.advance guarded taken others rfl rfl flying rfl
      · rintro cache entry follows ⟨⟩
        exact follows.found _ (by rw [loads]; rfl)
      · rintro cache table follows ⟨⟩
  | failLoad flying loads =>
      exact settled.of_step guarded taken others rfl (fun _ _ there => .inl (removed there)) fun _ member => .inl member
  | storeLoaded flying loaded =>
      apply settled.advance guarded taken others rfl rfl flying rfl
      · rintro cache entry follows ⟨⟩
      · rintro cache table follows ⟨⟩
        exact ⟨_, follows.found _ (by rw [loaded]; rfl), by simp [TableLookups.advance, TableLookups.setEntry]⟩
  | askGlue flying first alone =>
      apply settled.advance guarded taken others rfl rfl flying rfl
      · rintro cache entry follows ⟨⟩
      · intro cache table follows resolved
        have in_ := follows.in_
        rw [alone] at in_
        cases in_
  | finishLookup flying resolved looks =>
      apply settled.of_step guarded taken others rfl (fun _ _ there => .inl (removed there))
      intro answer member
      rcases List.mem_append.mp member with older | newer
      · exact .inl older
      · obtain ⟨by_, asked, rfl, -⟩ := mem_answersOf newer
        right
        intro mine
        rw [by_] at mine
        constructor
        · intro idle
          exact (settled.begun idle).1 _ _ flying mine
        · intro one running own
          have follows := settled.follows one running own _ _ flying mine
          rw [asked, key_congr follows.named.symm]
          exact follows.resolved _ resolved

/-- In a run where the transaction writes nothing. -/
theorem settled_of_run {databaseName : Text} {actions : List (TableAction Transaction)}
    (run : Run MeetingStep { databaseName } actions s) (reads : .invalidate transaction ∉ actions) :
    s.Settled transaction := by
  have others : ∀ action ∈ actions, action ≠ .invalidate transaction := by
    rintro action member rfl
    exact reads member
  have kept : ∀ {s : TableLookups Transaction} {action s'}, MeetingStep s action s' ∧ action ≠ .invalidate transaction →
      s.Known ∧ s.Guarded ∧ s.Settled transaction → s'.Known ∧ s'.Guarded ∧ s'.Settled transaction := by
    intro s action s' taken holds
    obtain ⟨⟨meets, stepped⟩, others⟩ := taken
    obtain ⟨known, guarded, settled⟩ := holds
    exact ⟨known.step ⟨meets, stepped⟩, guarded.step stepped, settled.step known guarded stepped others⟩
  have all := @Run.invariant _ _ _ _ _ _ (fun s => s.Known ∧ s.Guarded ∧ s.Settled transaction) kept
    (run.restrict others) ⟨known_init databaseName, guarded_init databaseName, settled_init databaseName⟩
  exact all.2.2

/-- While the versions tell the definitions of a name apart, a lookup returns an entry of
the definition its transaction resolved, and under the default scope the lookups of a name
in a transaction that writes nothing return the same definition. -/
theorem getEntry_returnsResolved {databaseName : Text} {actions : List (TableAction Transaction)}
    (run : Run MeetingStep { databaseName } actions s) :
    (∀ answer ∈ s.answers, answer.entry.info = answer.table) ∧
      ∀ transaction one, s.transactions transaction = some one → one.connectionScoped = false →
        .invalidate transaction ∉ actions → ∀ first ∈ s.answers, ∀ second ∈ s.answers,
        first.transaction = some transaction → second.transaction = some transaction →
        lower first.name = lower second.name → first.entry.info = second.entry.info := by
  have known := known_of_run run
  refine ⟨known.answered, ?_⟩
  intro transaction one running own reads first member second member' mine mine' named
  have settled := settled_of_run run reads
  obtain ⟨entry, slot, value⟩ := settled.answered one running own first member mine
  obtain ⟨entry', slot', value'⟩ := settled.answered one running own second member' mine'
  -- the two lookups share the slot of the cache, and so its value
  rw [key_congr named, slot', Option.some.injEq] at slot
  subst slot
  rw [value', Option.some.injEq] at value
  rw [known.answered first member, known.answered second member', value]

section Examples

/-- The table "orders" of one column. -/
def ordersOf (type : Text) (createTimeMs : ℤ) : GlueTableInfo :=
  { name := "orders", versionId := "0", createTimeMs, glueTableType := "EXTERNAL_TABLE",
    columns := [{ name := "id", type }] }

/-- One transaction looks "orders" up before another client creates it again, and once
more after a second transaction has. -/
def createdLater : List (TableAction ℕ) := [
  .define (ordersOf "int" 1000), .beginTransaction 1 1 false, .startLookup (some 1) "orders", .findEntry 0,
  .startLoad 0, .finishLoad 0, .storeLoaded 0, .finishLookup 0,
  .define (ordersOf "bigint" 2000), .beginTransaction 2 2 false, .startLookup (some 2) "orders", .findEntry 1,
  .startLoad 1, .finishLoad 1, .storeLoaded 1, .finishLookup 1,
  .startLookup (some 1) "ORDERS", .findEntry 2, .answerCached 2, .finishLookup 2]

theorem run_createdLater : ∃ s, Run MeetingStep { databaseName := "sales" } createdLater s ∧
    s.transactions 1 = some ⟨1, 0, false⟩ ∧
    s.answers = [⟨some 1, "orders", ordersOf "int" 1000, ⟨0, ordersOf "int" 1000⟩⟩,
      ⟨some 2, "orders", ordersOf "bigint" 2000, ⟨1, ordersOf "bigint" 2000⟩⟩,
      ⟨some 1, "ORDERS", ordersOf "int" 1000, ⟨2, ordersOf "int" 1000⟩⟩] := by
  have other : ∀ earlier ∈ [ordersOf "int" 1000], lower earlier.name = lower (ordersOf "bigint" 2000).name →
      earlier.isSameVersion (ordersOf "bigint" 2000) = true → earlier = ordersOf "bigint" 2000 := by
    intro earlier member named same
    rw [List.mem_singleton.mp member] at same
    cases same
  refine ⟨_, .cons ⟨by simp [Meets], .define⟩ <| .cons ⟨trivial, .beginTransaction rfl⟩ <|
    .cons ⟨trivial, .startLookup rfl⟩ <| .cons ⟨trivial, .makeEntry rfl rfl rfl rfl⟩ <|
    .cons ⟨trivial, .startLoad rfl rfl rfl rfl⟩ <| .cons ⟨trivial, .finishLoad rfl rfl rfl⟩ <|
    .cons ⟨trivial, .storeLoaded rfl rfl⟩ <| .cons ⟨trivial, .finishLookup rfl rfl rfl⟩ <|
    .cons ⟨other, .define⟩ <| .cons ⟨trivial, .beginTransaction rfl⟩ <| .cons ⟨trivial, .startLookup rfl⟩ <|
    .cons ⟨trivial, .makeEntry rfl rfl rfl rfl⟩ <| .cons ⟨trivial, .startLoad rfl rfl rfl rfl⟩ <|
    .cons ⟨trivial, .finishLoad rfl rfl rfl⟩ <| .cons ⟨trivial, .storeLoaded rfl rfl⟩ <|
    .cons ⟨trivial, .finishLookup rfl rfl rfl⟩ <| .cons ⟨trivial, .startLookup rfl⟩ <|
    .cons ⟨trivial, .findEntry rfl rfl rfl rfl⟩ <| .cons ⟨trivial, .answerCached rfl rfl rfl rfl⟩ <|
    .cons ⟨trivial, .finishLookup rfl rfl rfl⟩ .nil, rfl, rfl⟩

theorem getEntry_returnsResolved_createdLater : ∃ s : TableLookups ℕ, s.answers.length = 3 ∧
    (∀ answer ∈ s.answers, answer.entry.info = answer.table) ∧
    ∀ first ∈ s.answers, ∀ second ∈ s.answers, first.transaction = some 1 → second.transaction = some 1 →
      lower first.name = lower second.name → first.entry.info = second.entry.info := by
  obtain ⟨s, run, running, answered⟩ := run_createdLater
  obtain ⟨resolved, same⟩ := getEntry_returnsResolved run
  exact ⟨s, by rw [answered]; rfl, resolved, same 1 ⟨1, 0, false⟩ running rfl (by simp [createdLater])⟩

/-- Another client drops the table and creates it again within one second. -/
def recreated : List (TableAction ℕ) := [
  .define (ordersOf "int" 1000), .beginTransaction 1 1 false, .startLookup (some 1) "orders", .findEntry 0,
  .startLoad 0, .finishLoad 0, .storeLoaded 0, .finishLookup 0,
  .drop "orders", .define (ordersOf "bigint" 1000), .beginTransaction 2 2 false, .startLookup (some 2) "orders",
  .findEntry 1, .startLoad 1, .finishLoad 1, .storeLoaded 1, .finishLookup 1]

theorem getEntry_recreated : ∃ s, Run Step { databaseName := "sales" } recreated s ∧
    ∃ answer ∈ s.answers, answer.table = ordersOf "bigint" 1000 ∧ answer.entry.info = ordersOf "int" 1000 ∧
      answer.entry.info ≠ answer.table := by
  refine ⟨_, .cons .define <| .cons (.beginTransaction rfl) <| .cons (.startLookup rfl) <|
    .cons (.makeEntry rfl rfl rfl rfl) <| .cons (.startLoad rfl rfl rfl rfl) <| .cons (.finishLoad rfl rfl rfl) <|
    .cons (.storeLoaded rfl rfl) <| .cons (.finishLookup rfl rfl rfl) <| .cons .drop <| .cons .define <|
    .cons (.beginTransaction rfl) <| .cons (.startLookup rfl) <| .cons (.makeEntry rfl rfl rfl rfl) <|
    .cons (.startLoad rfl rfl rfl rfl) <| .cons (.finishLoad rfl rfl rfl) <| .cons (.storeLoaded rfl rfl) <|
    .cons (.finishLookup rfl rfl rfl) .nil, ?_⟩
  refine ⟨⟨some 2, "orders", ordersOf "bigint" 1000, ⟨0, ordersOf "int" 1000⟩⟩, List.mem_of_getElem? (i := 1) rfl,
    rfl, rfl, ?_⟩
  intro same
  have columns : (ordersOf "int" 1000).columns = (ordersOf "bigint" 1000).columns := congrArg _ same
  exact absurd columns (by decide)

end Examples

end TableLookups

end DuckGlue
