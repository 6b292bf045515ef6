import DuckGlue.Core.StringUtil
import DuckGlue.Lib.Runs
import Mathlib.Data.List.AList

/-! # The metadata and listing caches of a connection

A lookup finds or makes the entry of its key under the lock of the map, and loads it
under the lock of the entry. A write drops the entries of its own transaction, those of
the connection and the listings, one after the other. The steps of any threads of one
connection, on the aliases one Glue catalog is attached under; a value stands for the
time its load started.
-/

namespace DuckGlue

open StringUtil

inductive CacheMap where
  | tables
  | partitions
  deriving Repr, DecidableEq

/-- A cached value and the lock that guards loading it. -/
structure CacheEntry where
  value : Option ℕ := none
  /-- The lookup that holds the lock across its load, and when that started. -/
  loading : Option (ℕ × ℕ) := none

structure GlueTransactionCache where
  slots : CacheMap → Text → Option ℕ := fun _ _ => none

/-- The keys fold case. -/
def cacheKey (databaseName tableName : Text) : Text := lower (databaseName ++ "\n" ++ tableName)

/-- A lookup in flight. -/
structure CacheLookup (Alias : Type) where
  catalog : Alias
  map : CacheMap
  key : Text
  started : ℕ
  /-- The cache of the transaction the lookup started in. -/
  cache : ℕ
  /-- Where the load returns a value fetched before the lookup, when that was. -/
  fetched : Option ℕ
  entry : Option ℕ := none

inductive WritePhase where
  | writing
  | clearedTransaction
  | clearedConnection
  | finished (at_ : ℕ)
  deriving Repr, DecidableEq

/-- A write and how far its `InvalidateOnExit` has come. -/
structure CacheWrite (Alias : Type) where
  catalog : Alias
  began : ℕ
  phase : WritePhase := .writing

/-- What a lookup was answered with. -/
structure CacheAnswer where
  started : ℕ
  loaded : ℕ
  deriving Repr, DecidableEq

variable {Alias : Type} [DecidableEq Alias]

/-- The state of a connection. -/
structure Connection (Alias : Type) where
  now : ℕ := 0
  /-- `glue_metadata_cache_scope` is 'connection'. -/
  connectionScoped : Bool := false
  /-- `glue_cache_listings` -/
  cacheListings : Bool := false
  /-- The cache of each running Glue transaction. -/
  transactions : AList (fun _ : Alias => ℕ) := ∅
  /-- `GlueMetadataCacheState` -/
  connectionCaches : AList (fun _ : Alias => ℕ) := ∅
  caches : ℕ → GlueTransactionCache := fun _ => {}
  cachesMade : ℕ := 0
  entries : ℕ → CacheEntry := fun _ => {}
  entriesMade : ℕ := 0
  /-- `HiveListingCache` -/
  listings : Text → Option ℕ := fun _ => none
  lookups : ℕ → Option (CacheLookup Alias) := fun _ => none
  /-- When each listing lookup in flight started, and its directory. -/
  listingLookups : ℕ → Option (ℕ × Text) := fun _ => none
  lookupsMade : ℕ := 0
  writes : ℕ → Option (CacheWrite Alias) := fun _ => none
  writesMade : ℕ := 0
  /-- Every lookup answered so far; no code keeps this. -/
  answers : List CacheAnswer := []

inductive CacheAction (Alias : Type) where
  | setScope (connectionScoped : Bool)
  | setListings (cacheListings : Bool)
  | beginTransaction (catalog : Alias)
  | commit
  | rollback
  | queryEnd
  | startLookup (catalog : Alias) (map : CacheMap) (databaseName tableName : Text) (fetched : Option ℕ)
  | findEntry (lookup : ℕ)
  | startLoad (lookup : ℕ)
  | finishLoad (lookup : ℕ)
  | failLoad (lookup : ℕ)
  | storeFetched (lookup : ℕ)
  | answerCached (lookup : ℕ)
  | startListing (directory : Text)
  | answerListing (lookup : ℕ)
  | beginWrite (catalog : Alias)
  | invalidateTransaction (write : ℕ)
  | invalidateConnection (write : ℕ)
  | invalidateListings (write : ℕ)
  /-- A write to another Glue catalog. -/
  | writeElsewhere

namespace Connection

variable (s : Connection Alias)

/-- The constructor of `GlueTransaction`, with `GetCache` of the connection's caches. -/
def startTransaction (catalog : Alias) : Connection Alias :=
  if s.connectionScoped then
    match s.connectionCaches.lookup catalog with
    | some cache => { s with transactions := s.transactions.insert catalog cache }
    | none =>
        { s with
          transactions := s.transactions.insert catalog s.cachesMade
          connectionCaches := s.connectionCaches.insert catalog s.cachesMade
          caches := Function.update s.caches s.cachesMade {}
          cachesMade := s.cachesMade + 1 }
  else
    { s with
      transactions := s.transactions.insert catalog s.cachesMade
      caches := Function.update s.caches s.cachesMade {}
      cachesMade := s.cachesMade + 1 }

def isConnectionCache (cache : ℕ) : Bool := s.connectionCaches.entries.any (·.2 = cache)

/-- `ClearAll` -/
def clearConnection : Connection Alias :=
  { s with caches := fun cache => if s.isConnectionCache cache then {} else s.caches cache }

/-- `GlueTransaction::Get` starts the transaction if it does not run. -/
def withTransaction (catalog : Alias) : Connection Alias :=
  if s.transactions.lookup catalog = none then s.startTransaction catalog else s

def clearCache (cache : ℕ) : Connection Alias := { s with caches := Function.update s.caches cache {} }

/-- `GlueTransaction::Get(context, catalog).cache->Clear()` -/
def clearTransaction (catalog : Alias) : Connection Alias :=
  match (s.withTransaction catalog).transactions.lookup catalog with
  | some cache => (s.withTransaction catalog).clearCache cache
  | none => s.withTransaction catalog

def clearListings : Connection Alias := { s with listings := fun _ => none }

/-- `FindEntry` for a lookup. -/
def findEntry (number : ℕ) (lookup : CacheLookup Alias) : Connection Alias :=
  match (s.caches lookup.cache).slots lookup.map lookup.key with
  | some entry => { s with lookups := Function.update s.lookups number (some { lookup with entry }) }
  | none =>
      { s with
        entries := Function.update s.entries s.entriesMade {}
        entriesMade := s.entriesMade + 1
        caches := Function.update s.caches lookup.cache
          ⟨Function.update (s.caches lookup.cache).slots lookup.map
            (Function.update ((s.caches lookup.cache).slots lookup.map) lookup.key s.entriesMade)⟩
        lookups := Function.update s.lookups number (some { lookup with entry := s.entriesMade }) }

/-- A lookup returns. -/
def answer (number : ℕ) (lookup : CacheLookup Alias) (loaded : ℕ) : Connection Alias :=
  { s with
    lookups := Function.update s.lookups number none
    answers := s.answers ++ [⟨lookup.started, loaded⟩] }

def setEntry (entry : ℕ) (content : CacheEntry) : Connection Alias :=
  { s with entries := Function.update s.entries entry content }

def setPhase (number : ℕ) (write : CacheWrite Alias) (phase : WritePhase) : Connection Alias :=
  { s with writes := Function.update s.writes number (some { write with phase }) }

def tick : Connection Alias := { s with now := s.now + 1 }

/-- One step of a thread of the connection. -/
inductive Step : Connection Alias → CacheAction Alias → Connection Alias → Prop where
  | setScope {s : Connection Alias} {connectionScoped : Bool} :
      Step s (.setScope connectionScoped) { s with connectionScoped }.tick
  | setListings {s : Connection Alias} {cacheListings : Bool} :
      Step s (.setListings cacheListings) { s with cacheListings }.tick
  | beginTransaction {s : Connection Alias} {catalog : Alias} (idle : s.transactions.lookup catalog = none) :
      Step s (.beginTransaction catalog) (s.startTransaction catalog).tick
  /-- `TransactionCommit` keeps the listings under the connection scope. -/
  | commit {s : Connection Alias} :
      Step s .commit { (if s.connectionScoped then s else s.clearListings) with transactions := ∅ }.tick
  | rollback {s : Connection Alias} :
      Step s .rollback { s.clearConnection.clearListings with transactions := ∅ }.tick
  | queryEnd {s : Connection Alias} : Step s .queryEnd (if s.cacheListings then s else s.clearListings).tick
  | startLookup {s : Connection Alias} {catalog : Alias} {map : CacheMap} {databaseName tableName : Text}
      {fetched : Option ℕ} {cache : ℕ} (running : s.transactions.lookup catalog = some cache)
      (earlier : ∀ before ∈ fetched, before ≤ s.now) :
      Step s (.startLookup catalog map databaseName tableName fetched)
        { s with
          lookups := Function.update s.lookups s.lookupsMade
            (some { catalog, map, key := cacheKey databaseName tableName, started := s.now, cache, fetched })
          lookupsMade := s.lookupsMade + 1 }.tick
  | findEntry {s : Connection Alias} {number : ℕ} {lookup : CacheLookup Alias}
      (flying : s.lookups number = some lookup) (first : lookup.entry = none) :
      Step s (.findEntry number) (s.findEntry number lookup).tick
  | startLoad {s : Connection Alias} {number entry : ℕ} {lookup : CacheLookup Alias}
      (flying : s.lookups number = some lookup) (found : lookup.entry = some entry) (loads : lookup.fetched = none)
      (empty : s.entries entry = {}) :
      Step s (.startLoad number) (s.setEntry entry { loading := some (number, s.now) }).tick
  | finishLoad {s : Connection Alias} {number entry started : ℕ} {lookup : CacheLookup Alias}
      (flying : s.lookups number = some lookup) (found : lookup.entry = some entry)
      (loading : (s.entries entry).loading = some (number, started)) :
      Step s (.finishLoad number) ((s.setEntry entry { value := some started }).answer number lookup started).tick
  /-- A load that throws or finds no table leaves the entry empty. -/
  | failLoad {s : Connection Alias} {number entry started : ℕ} {lookup : CacheLookup Alias}
      (flying : s.lookups number = some lookup) (found : lookup.entry = some entry)
      (loading : (s.entries entry).loading = some (number, started)) :
      Step s (.failLoad number)
        { s.setEntry entry {} with lookups := Function.update s.lookups number none }.tick
  /-- The load of `LoadEntries` and the like, which returns what was fetched before. -/
  | storeFetched {s : Connection Alias} {number entry before : ℕ} {lookup : CacheLookup Alias}
      (flying : s.lookups number = some lookup) (found : lookup.entry = some entry)
      (fetched : lookup.fetched = some before) (empty : s.entries entry = {}) :
      Step s (.storeFetched number) ((s.setEntry entry { value := some before }).answer number lookup before).tick
  | answerCached {s : Connection Alias} {number entry loaded : ℕ} {lookup : CacheLookup Alias}
      (flying : s.lookups number = some lookup) (found : lookup.entry = some entry)
      (unlocked : (s.entries entry).loading = none) (cached : (s.entries entry).value = some loaded) :
      Step s (.answerCached number) (s.answer number lookup loaded).tick
  | startListing {s : Connection Alias} {directory : Text} :
      Step s (.startListing directory)
        { s with
          listingLookups := Function.update s.listingLookups s.lookupsMade (some (s.now, directory))
          lookupsMade := s.lookupsMade + 1 }.tick
  /-- `GetListing` lists a new directory under the lock of the listings. -/
  | answerListing {s : Connection Alias} {number started : ℕ} {directory : Text}
      (flying : s.listingLookups number = some (started, directory)) :
      Step s (.answerListing number)
        { s with
          listings := Function.update s.listings directory (some ((s.listings directory).getD s.now))
          listingLookups := Function.update s.listingLookups number none
          answers := s.answers ++ [CacheAnswer.mk started ((s.listings directory).getD s.now)] }.tick
  | beginWrite {s : Connection Alias} {catalog : Alias} :
      Step s (.beginWrite catalog)
        { s with
          writes := Function.update s.writes s.writesMade (some { catalog, began := s.now })
          writesMade := s.writesMade + 1 }.tick
  | invalidateTransaction {s : Connection Alias} {number : ℕ} {write : CacheWrite Alias}
      (written : s.writes number = some write) (phase : write.phase = .writing) :
      Step s (.invalidateTransaction number)
        ((s.clearTransaction write.catalog).setPhase number write .clearedTransaction).tick
  | invalidateConnection {s : Connection Alias} {number : ℕ} {write : CacheWrite Alias}
      (written : s.writes number = some write) (phase : write.phase = .clearedTransaction) :
      Step s (.invalidateConnection number) (s.clearConnection.setPhase number write .clearedConnection).tick
  | invalidateListings {s : Connection Alias} {number : ℕ} {write : CacheWrite Alias}
      (written : s.writes number = some write) (phase : write.phase = .clearedConnection) :
      Step s (.invalidateListings number) (s.clearListings.setPhase number write (.finished s.now)).tick
  | writeElsewhere {s : Connection Alias} : Step s .writeElsewhere s.clearConnection.clearListings.tick

/-- No lookup that started after a write had finished was answered with a value whose
load started before the write. -/
def NoStaleAnswer : Prop :=
  ∀ answer ∈ s.answers, ∀ number write finished, s.writes number = some write → write.phase = .finished finished →
    finished ≤ answer.started → write.began ≤ answer.loaded

/-- When a load started that the entry holds the value of, or will: one that runs, or
the fetch of a lookup that has found the entry. -/
inductive Source (entry : ℕ) : ℕ → Prop where
  | value {started : ℕ} (cached : (s.entries entry).value = some started) : Source entry started
  | loading {number started : ℕ} (loads : (s.entries entry).loading = some (number, started)) : Source entry started
  | fetched {number before : ℕ} {lookup : CacheLookup Alias} (flying : s.lookups number = some lookup)
      (found : lookup.entry = some entry) (early : lookup.fetched = some before) : Source entry before

def FreshEntry (began entry : ℕ) : Prop := ∀ started, s.Source entry started → began ≤ started

/-- No entry of the cache is of a load that started before. -/
def FreshCache (began cache : ℕ) : Prop :=
  ∀ map key entry, (s.caches cache).slots map key = some entry → s.FreshEntry began entry

/-- The steps that leave no stale value behind. When a write drops the caches of the
connection, no other alias runs a transaction with a cache of its own that holds
anything from before the write; and no value fetched before a write is stored once that
write has begun to invalidate. -/
def Meets : CacheAction Alias → Prop
  | .invalidateConnection number => ∀ write, s.writes number = some write → ∀ catalog cache,
      s.transactions.lookup catalog = some cache → catalog ≠ write.catalog → s.isConnectionCache cache = false →
      s.FreshCache write.began cache
  | .findEntry number => ∀ lookup before, s.lookups number = some lookup → lookup.fetched = some before →
      ∀ other write, s.writes other = some write → write.phase ≠ .writing → write.began ≤ before
  | _ => True

variable {s} {s' : Connection Alias} {action : CacheAction Alias}

@[simp] theorem startTransaction_entries (catalog : Alias) : (s.startTransaction catalog).entries = s.entries := by
  unfold startTransaction
  split
  · split <;> rfl
  · rfl

@[simp] theorem startTransaction_lookups (catalog : Alias) : (s.startTransaction catalog).lookups = s.lookups := by
  unfold startTransaction
  split
  · split <;> rfl
  · rfl

@[simp] theorem withTransaction_entries (catalog : Alias) : (s.withTransaction catalog).entries = s.entries := by
  unfold withTransaction
  split_ifs <;> simp

@[simp] theorem withTransaction_lookups (catalog : Alias) : (s.withTransaction catalog).lookups = s.lookups := by
  unfold withTransaction
  split_ifs <;> simp

@[simp] theorem clearTransaction_entries (catalog : Alias) : (s.clearTransaction catalog).entries = s.entries := by
  unfold clearTransaction
  split <;> simp [clearCache]

@[simp] theorem clearTransaction_lookups (catalog : Alias) : (s.clearTransaction catalog).lookups = s.lookups := by
  unfold clearTransaction
  split <;> simp [clearCache]

@[simp] theorem startTransaction_listings (catalog : Alias) : (s.startTransaction catalog).listings = s.listings := by
  unfold startTransaction
  split
  · split <;> rfl
  · rfl

@[simp] theorem clearTransaction_listings (catalog : Alias) : (s.clearTransaction catalog).listings = s.listings := by
  have started : (s.withTransaction catalog).listings = s.listings := by
    unfold withTransaction
    split_ifs <;> simp
  unfold clearTransaction
  split <;> simp [clearCache, started]

@[simp] theorem startTransaction_answers (catalog : Alias) : (s.startTransaction catalog).answers = s.answers := by
  unfold startTransaction
  split
  · split <;> rfl
  · rfl

@[simp] theorem clearTransaction_answers (catalog : Alias) : (s.clearTransaction catalog).answers = s.answers := by
  have started : (s.withTransaction catalog).answers = s.answers := by
    unfold withTransaction
    split_ifs <;> simp
  unfold clearTransaction
  split <;> simp [clearCache, started]

@[simp] theorem startTransaction_writes (catalog : Alias) : (s.startTransaction catalog).writes = s.writes := by
  unfold startTransaction
  split
  · split <;> rfl
  · rfl

@[simp] theorem clearTransaction_writes (catalog : Alias) : (s.clearTransaction catalog).writes = s.writes := by
  have started : (s.withTransaction catalog).writes = s.writes := by
    unfold withTransaction
    split_ifs <;> simp
  unfold clearTransaction
  split <;> simp [clearCache, started]

@[simp] theorem startTransaction_now (catalog : Alias) : (s.startTransaction catalog).now = s.now := by
  unfold startTransaction
  split
  · split <;> rfl
  · rfl

@[simp] theorem clearTransaction_now (catalog : Alias) : (s.clearTransaction catalog).now = s.now := by
  have started : (s.withTransaction catalog).now = s.now := by
    unfold withTransaction
    split_ifs <;> simp
  unfold clearTransaction
  split <;> simp [clearCache, started]

@[simp] theorem startTransaction_entriesMade (catalog : Alias) :
    (s.startTransaction catalog).entriesMade = s.entriesMade := by
  unfold startTransaction
  split
  · split <;> rfl
  · rfl

@[simp] theorem clearTransaction_entriesMade (catalog : Alias) :
    (s.clearTransaction catalog).entriesMade = s.entriesMade := by
  have started : (s.withTransaction catalog).entriesMade = s.entriesMade := by
    unfold withTransaction
    split_ifs <;> simp
  unfold clearTransaction
  split <;> simp [clearCache, started]

@[simp] theorem startTransaction_listingLookups (catalog : Alias) :
    (s.startTransaction catalog).listingLookups = s.listingLookups := by
  unfold startTransaction
  split
  · split <;> rfl
  · rfl

@[simp] theorem clearTransaction_listingLookups (catalog : Alias) :
    (s.clearTransaction catalog).listingLookups = s.listingLookups := by
  have started : (s.withTransaction catalog).listingLookups = s.listingLookups := by
    unfold withTransaction
    split_ifs <;> simp
  unfold clearTransaction
  split <;> simp [clearCache, started]

section Sources

variable {entry started : ℕ}

omit [DecidableEq Alias] in
/-- Lookups that have not found an entry, and those that are done, bring no source. -/
theorem source_of_lookups (source : s'.Source entry started)
    (held : (s'.entries entry).value = some started ∨ (∃ number, (s'.entries entry).loading = some (number, started)) →
      s.Source entry started ∨ started = s.now)
    (lookups : ∀ number lookup, s'.lookups number = some lookup →
      s.lookups number = some lookup ∨ lookup.entry = none) : s.Source entry started ∨ started = s.now := by
  cases source with
  | value cached => exact held (.inl cached)
  | loading loads => exact held (.inr ⟨_, loads⟩)
  | fetched flying found early =>
      cases lookups _ _ flying with
      | inl known => exact .inl (.fetched known found early)
      | inr lost => rw [lost] at found; cases found

omit [DecidableEq Alias] in
theorem source_of_kept (source : s'.Source entry started) (entries : s'.entries = s.entries)
    (lookups : s'.lookups = s.lookups) : s.Source entry started ∨ started = s.now := by
  refine source_of_lookups source (fun held => .inl ?_) (fun number lookup flying => .inl ?_)
  · rw [entries] at held
    cases held with
    | inl cached => exact .value cached
    | inr loads => exact .loading loads.choose_spec
  · rwa [lookups] at flying

omit [DecidableEq Alias] in
/-- An entry whose content changes. -/
theorem source_of_setEntry {changed : ℕ} {content : CacheEntry} (source : s'.Source entry started)
    (entries : s'.entries = Function.update s.entries changed content)
    (held : content.value = some started ∨ (∃ number, content.loading = some (number, started)) →
      s.Source changed started ∨ started = s.now)
    (lookups : ∀ number lookup, s'.lookups number = some lookup → s.lookups number = some lookup) :
    s.Source entry started ∨ started = s.now := by
  refine source_of_lookups source (fun now => ?_) (fun number lookup flying => .inl (lookups number lookup flying))
  rw [entries] at now
  by_cases same : entry = changed
  · subst same
    rw [Function.update_self] at now
    exact held now
  · rw [Function.update_of_ne same] at now
    cases now with
    | inl cached => exact .inl (.value cached)
    | inr loads => exact .inl (.loading loads.choose_spec)

omit [DecidableEq Alias] in
/-- A lookup that is done. -/
theorem lookup_of_done {number other : ℕ} {lookups : ℕ → Option (CacheLookup Alias)} {lookup : CacheLookup Alias}
    (flying : Function.update lookups number none other = some lookup) : lookups other = some lookup := by
  by_cases same : other = number
  · subst same
    rw [Function.update_self] at flying
    cases flying
  · rwa [Function.update_of_ne same] at flying

omit [DecidableEq Alias] in
/-- A lookup that finds its entry brings what it fetched. -/
theorem source_findEntry {number : ℕ} {lookup : CacheLookup Alias} (flying : s.lookups number = some lookup)
    (source : (s.findEntry number lookup).tick.Source entry started) :
    s.Source entry started ∨ lookup.fetched = some started := by
  have attached : ∀ other one found, Function.update s.lookups number (some { lookup with entry := some found }) other =
      some one → one.entry = some entry → one.fetched = some started →
      s.Source entry started ∨ lookup.fetched = some started := by
    intro other one found flying' here early
    by_cases same : other = number
    · subst same
      rw [Function.update_self] at flying'
      cases flying'
      exact .inr early
    · rw [Function.update_of_ne same] at flying'
      exact .inl (.fetched flying' here early)
  cases slot : (s.caches lookup.cache).slots lookup.map lookup.key with
  | some known =>
      simp only [findEntry, slot, tick] at source
      cases source with
      | value cached => exact .inl (.value cached)
      | loading loads => exact .inl (.loading loads)
      | fetched flying' here early => exact attached _ _ _ flying' here early
  | none =>
      simp only [findEntry, slot, tick] at source
      cases source with
      | value cached =>
          dsimp only at cached
          by_cases same : entry = s.entriesMade
          · subst same
            rw [Function.update_self] at cached
            cases cached
          · rw [Function.update_of_ne same] at cached
            exact .inl (.value cached)
      | loading loads =>
          dsimp only at loads
          by_cases same : entry = s.entriesMade
          · subst same
            rw [Function.update_self] at loads
            cases loads
          · rw [Function.update_of_ne same] at loads
            exact .inl (.loading loads)
      | fetched flying' here early => exact attached _ _ _ flying' here early

/-- An entry only gets sources from loads that start and from fetched values that find
it. -/
theorem source_step (stepped : Step s action s') (source : s'.Source entry started) :
    (s.Source entry started ∨ started = s.now) ∨
      ∃ number lookup, action = .findEntry number ∧ s.lookups number = some lookup ∧ lookup.fetched = some started := by
  cases stepped with
  | setScope | setListings | rollback | startListing | answerListing | beginWrite | invalidateConnection
  | invalidateListings | writeElsewhere => exact .inl (source_of_kept source rfl rfl)
  | beginTransaction =>
      exact .inl (source_of_kept source (startTransaction_entries _) (startTransaction_lookups _))
  | invalidateTransaction =>
      exact .inl (source_of_kept source (clearTransaction_entries _) (clearTransaction_lookups _))
  | commit =>
      refine .inl (source_of_kept source ?_ ?_)
      · simp only [tick]
        split <;> rfl
      · simp only [tick]
        split <;> rfl
  | queryEnd =>
      refine .inl (source_of_kept source ?_ ?_)
      · simp only [tick]
        split <;> rfl
      · simp only [tick]
        split <;> rfl
  | startLookup running earlier =>
      refine .inl (source_of_lookups source (fun held => .inl ?_) (fun number lookup flying => ?_))
      · cases held with
        | inl cached => exact .value cached
        | inr loads => exact .loading loads.choose_spec
      · simp only [tick] at flying
        by_cases same : number = s.lookupsMade
        · subst same
          rw [Function.update_self] at flying
          cases flying
          exact .inr rfl
        · rw [Function.update_of_ne same] at flying
          exact .inl flying
  | findEntry flying first =>
      cases source_findEntry flying source with
      | inl known => exact .inl (.inl known)
      | inr early => exact .inr ⟨_, _, rfl, flying, early⟩
  | startLoad flying found loads empty =>
      refine .inl (source_of_setEntry source rfl (fun held => ?_) fun _ _ flying => flying)
      cases held with
      | inl cached => cases cached
      | inr loading =>
          obtain ⟨_, loading⟩ := loading
          cases loading
          exact .inr rfl
  | finishLoad flying found loading =>
      refine .inl (source_of_setEntry source rfl (fun held => ?_) fun _ _ flying => lookup_of_done flying)
      cases held with
      | inl cached =>
          cases cached
          exact .inl (.loading loading)
      | inr loading => cases loading.choose_spec
  | failLoad flying found loading =>
      refine .inl (source_of_setEntry source rfl (fun held => ?_) fun _ _ flying => lookup_of_done flying)
      cases held with
      | inl cached => cases cached
      | inr loading => cases loading.choose_spec
  | storeFetched flying found fetched empty =>
      refine .inl (source_of_setEntry source rfl (fun held => ?_) fun _ _ flying => lookup_of_done flying)
      cases held with
      | inl cached =>
          cases cached
          exact .inl (.fetched flying found fetched)
      | inr loading => cases loading.choose_spec
  | answerCached flying found unlocked cached =>
      refine .inl (source_of_lookups source (fun held => .inl ?_) (fun _ _ flying => .inl (lookup_of_done flying)))
      cases held with
      | inl cached => exact .value cached
      | inr loads => exact .loading loads.choose_spec

end Sources

section Caches

variable {cache : ℕ} {map : CacheMap} {key : Text} {entry : ℕ}

/-- Nothing is in the cache. -/
def EmptyCache (s : Connection Alias) (cache : ℕ) : Prop := ∀ map key, (s.caches cache).slots map key = none

omit [DecidableEq Alias] in
theorem slots_clearCache {cleared : ℕ} (slot : ((s.clearCache cleared).caches cache).slots map key = some entry) :
    (s.caches cache).slots map key = some entry := by
  simp only [clearCache] at slot
  by_cases same : cache = cleared
  · subst same
    rw [Function.update_self] at slot
    cases slot
  · rwa [Function.update_of_ne same] at slot

theorem slots_startTransaction {catalog : Alias}
    (slot : ((s.startTransaction catalog).caches cache).slots map key = some entry) :
    (s.caches cache).slots map key = some entry := by
  unfold startTransaction at slot
  split_ifs at slot
  · split at slot
    · exact slot
    · exact slots_clearCache slot
  · exact slots_clearCache slot

theorem slots_withTransaction {catalog : Alias}
    (slot : ((s.withTransaction catalog).caches cache).slots map key = some entry) :
    (s.caches cache).slots map key = some entry := by
  unfold withTransaction at slot
  split_ifs at slot
  · exact slots_startTransaction slot
  · exact slot

theorem slots_clearTransaction {catalog : Alias}
    (slot : ((s.clearTransaction catalog).caches cache).slots map key = some entry) :
    (s.caches cache).slots map key = some entry := by
  unfold clearTransaction at slot
  split at slot
  · exact slots_withTransaction (slots_clearCache slot)
  · exact slots_withTransaction slot

omit [DecidableEq Alias] in
theorem slots_clearConnection (slot : (s.clearConnection.caches cache).slots map key = some entry) :
    (s.caches cache).slots map key = some entry := by
  unfold clearConnection at slot
  by_cases kept : s.isConnectionCache cache = true
  · simp [kept] at slot
  · simpa [kept] using slot

omit [DecidableEq Alias] in
theorem slots_findEntry {number : ℕ} {lookup : CacheLookup Alias}
    (slot : ((s.findEntry number lookup).caches cache).slots map key = some entry) :
    (s.caches cache).slots map key = some entry ∨
      entry = s.entriesMade ∧ (s.caches lookup.cache).slots lookup.map lookup.key = none := by
  unfold findEntry at slot
  split at slot
  · exact .inl slot
  · rename_i new
    dsimp only at slot
    by_cases here : cache = lookup.cache
    · subst here
      rw [Function.update_self] at slot
      by_cases inMap : map = lookup.map
      · subst inMap
        dsimp only at slot
        rw [Function.update_self] at slot
        by_cases same : key = lookup.key
        · subst same
          rw [Function.update_self] at slot
          exact .inr ⟨(Option.some.inj slot).symm, new⟩
        · rw [Function.update_of_ne same] at slot
          exact .inl slot
      · dsimp only at slot
        rw [Function.update_of_ne inMap] at slot
        exact .inl slot
    · rw [Function.update_of_ne here] at slot
      exact .inl slot

/-- An entry that is new to a cache was made for the lookup that did not find one. -/
theorem slots_step (stepped : Step s action s') (slot : (s'.caches cache).slots map key = some entry) :
    (s.caches cache).slots map key = some entry ∨
      ∃ number lookup, action = .findEntry number ∧ s.lookups number = some lookup ∧ entry = s.entriesMade ∧
        (s.caches lookup.cache).slots lookup.map lookup.key = none ∧ s' = (s.findEntry number lookup).tick := by
  cases stepped with
  | setScope | setListings | startLookup | startLoad | finishLoad | failLoad | storeFetched | answerCached
  | startListing | answerListing | beginWrite | invalidateListings => exact .inl slot
  | commit =>
      simp only [tick] at slot
      split_ifs at slot
      · exact .inl slot
      · exact .inl slot
  | queryEnd =>
      simp only [tick] at slot
      split_ifs at slot
      · exact .inl slot
      · exact .inl slot
  | beginTransaction => exact .inl (slots_startTransaction slot)
  | rollback | writeElsewhere | invalidateConnection => exact .inl (slots_clearConnection slot)
  | invalidateTransaction => exact .inl (slots_clearTransaction slot)
  | findEntry flying first =>
      cases slots_findEntry slot with
      | inl known => exact .inl known
      | inr new => exact .inr ⟨_, _, rfl, flying, new.1, new.2, rfl⟩

end Caches

section Transactions

variable {catalog other : Alias} {cache : ℕ}

omit [DecidableEq Alias] in
theorem empty_clearCache : EmptyCache (s.clearCache cache) cache := by
  intro map key
  simp [clearCache]

/-- A cache that is new to a transaction is the one of the connection, or empty. -/
theorem transactions_startTransaction
    (running : (s.startTransaction catalog).transactions.lookup other = some cache) :
    s.transactions.lookup other = some cache ∨
      (s.startTransaction catalog).connectionCaches.lookup other = some cache ∨
        EmptyCache (s.startTransaction catalog) cache := by
  unfold startTransaction at running ⊢
  split_ifs at running ⊢
  · split at running
    · rename_i known shared
      by_cases same : other = catalog
      · subst same
        rw [AList.lookup_insert] at running
        cases running
        exact .inr (.inl shared)
      · rw [AList.lookup_insert_ne same] at running
        exact .inl running
    · by_cases same : other = catalog
      · subst same
        rw [AList.lookup_insert] at running
        cases running
        exact .inr (.inl (AList.lookup_insert _))
      · rw [AList.lookup_insert_ne same] at running
        exact .inl running
  · by_cases same : other = catalog
    · subst same
      rw [AList.lookup_insert] at running
      cases running
      exact .inr (.inr fun map key => by simp)
    · rw [AList.lookup_insert_ne same] at running
      exact .inl running

/-- The connection keeps its caches. -/
theorem connection_startTransaction (shared : s.connectionCaches.lookup other = some cache) :
    (s.startTransaction catalog).connectionCaches.lookup other = some cache := by
  unfold startTransaction
  split_ifs
  · split
    · exact shared
    · rename_i new
      have differs : other ≠ catalog := by
        rintro rfl
        rw [shared] at new
        cases new
      exact (AList.lookup_insert_ne differs).trans shared
  · exact shared

/-- A cache that is new to the connection is empty. -/
theorem new_startTransaction (shared : (s.startTransaction catalog).connectionCaches.lookup other = some cache) :
    s.connectionCaches.lookup other = some cache ∨ EmptyCache (s.startTransaction catalog) cache := by
  unfold startTransaction at shared ⊢
  split_ifs at shared ⊢
  · split at shared
    · exact .inl shared
    · by_cases same : other = catalog
      · subst same
        rw [AList.lookup_insert] at shared
        cases shared
        exact .inr fun map key => by simp
      · rw [AList.lookup_insert_ne same] at shared
        exact .inl shared
  · exact .inl shared

/-- How the caches of the transactions and of the connection follow one another. -/
structure Follows (s s' : Connection Alias) : Prop where
  transactions : ∀ other cache, s'.transactions.lookup other = some cache →
    s.transactions.lookup other = some cache ∨ s'.connectionCaches.lookup other = some cache ∨ EmptyCache s' cache
  kept : ∀ other cache, s.connectionCaches.lookup other = some cache → s'.connectionCaches.lookup other = some cache
  new : ∀ other cache, s'.connectionCaches.lookup other = some cache →
    s.connectionCaches.lookup other = some cache ∨ EmptyCache s' cache

theorem follows_of_eq (transactions : s'.transactions = s.transactions ∨ s'.transactions = ∅)
    (connectionCaches : s'.connectionCaches = s.connectionCaches) : Follows s s' where
  transactions := by
    intro other cache running
    cases transactions with
    | inl same => exact .inl (same ▸ running)
    | inr none =>
        rw [none, AList.lookup_empty] at running
        cases running
  kept := fun other cache shared => connectionCaches.symm ▸ shared
  new := fun other cache shared => .inl (connectionCaches ▸ shared)

theorem follows_startTransaction : Follows s (s.startTransaction catalog) where
  transactions := fun _ _ => transactions_startTransaction
  kept := fun _ _ => connection_startTransaction
  new := fun _ _ => new_startTransaction

theorem follows_withTransaction : Follows s (s.withTransaction catalog) := by
  unfold withTransaction
  split_ifs
  · exact follows_startTransaction
  · exact follows_of_eq (.inl rfl) rfl

/-- Nothing but the caches' contents goes. -/
theorem Follows.cleared {t : Connection Alias} (follows : Follows s t) (transactions : s'.transactions = t.transactions)
    (connectionCaches : s'.connectionCaches = t.connectionCaches)
    (caches : ∀ cache, EmptyCache t cache → EmptyCache s' cache) : Follows s s' where
  transactions := by
    intro other cache running
    rw [connectionCaches]
    rw [transactions] at running
    exact (follows.transactions other cache running).imp_right (Or.imp_right (caches cache))
  kept := fun other cache shared => connectionCaches.symm ▸ follows.kept other cache shared
  new := by
    intro other cache shared
    rw [connectionCaches] at shared
    exact (follows.new other cache shared).imp_right (caches cache)

theorem follows_clearTransaction : Follows s (s.clearTransaction catalog) := by
  unfold clearTransaction
  split
  · refine follows_withTransaction.cleared rfl rfl fun cache empty map key => ?_
    cases slot : (((s.withTransaction catalog).clearCache _).caches cache).slots map key with
    | none => rfl
    | some entry =>
        have full := slots_clearCache slot
        rw [empty map key] at full
        cases full
  · exact follows_withTransaction

/-- The cleared transaction's cache is empty. -/
theorem empty_clearTransaction (running : (s.clearTransaction catalog).transactions.lookup catalog = some cache) :
    EmptyCache (s.clearTransaction catalog) cache := by
  unfold clearTransaction at running ⊢
  split at running
  · rename_i cleared found
    cases found.symm.trans running
    exact empty_clearCache
  · rename_i none
    rw [none] at running
    cases running

omit [DecidableEq Alias] in
theorem empty_clearConnection (shared : s.isConnectionCache cache = true) : EmptyCache s.clearConnection cache := by
  intro map key
  simp [clearConnection, shared]

theorem isConnectionCache_of_lookup (shared : s.connectionCaches.lookup catalog = some cache) :
    s.isConnectionCache cache = true :=
  List.any_eq_true.mpr ⟨⟨catalog, cache⟩, AList.mem_lookup_iff.mp shared, by simp⟩

theorem follows_step (stepped : Step s action s') : Follows s s' := by
  cases stepped with
  | setScope | setListings | startLookup | startLoad | finishLoad | failLoad | storeFetched | answerCached
  | startListing | answerListing | beginWrite | invalidateListings | writeElsewhere | invalidateConnection =>
      exact follows_of_eq (.inl rfl) rfl
  | rollback => exact follows_of_eq (.inr rfl) rfl
  | commit =>
      refine follows_of_eq (.inr rfl) ?_
      simp only [tick]
      split_ifs <;> rfl
  | queryEnd =>
      refine follows_of_eq (.inl ?_) ?_
      · simp only [tick]
        split_ifs <;> rfl
      · simp only [tick]
        split_ifs <;> rfl
  | beginTransaction => exact follows_startTransaction.cleared rfl rfl fun _ empty => empty
  | invalidateTransaction => exact follows_clearTransaction.cleared rfl rfl fun _ empty => empty
  | findEntry =>
      apply follows_of_eq
      · left
        simp only [tick, findEntry]
        split <;> rfl
      · simp only [tick, findEntry]
        split <;> rfl

end Transactions

section Components

omit [DecidableEq Alias] in
theorem lookups_findEntry {number : ℕ} {lookup : CacheLookup Alias} :
    ∃ entry, (s.findEntry number lookup).lookups =
        Function.update s.lookups number (some { lookup with entry := some entry }) ∧
      ((s.findEntry number lookup).caches lookup.cache).slots lookup.map lookup.key = some entry := by
  unfold findEntry
  split
  · rename_i entry found
    exact ⟨entry, rfl, found⟩
  · exact ⟨s.entriesMade, rfl, by simp⟩

/-- A lookup in flight was, or has just started or just found its entry. -/
inductive Flying (s s' : Connection Alias) (number : ℕ) : CacheLookup Alias → Prop where
  | same {lookup : CacheLookup Alias} (flying : s.lookups number = some lookup) : Flying s s' number lookup
  | started {lookup : CacheLookup Alias} (first : lookup.entry = none) (now : lookup.started = s.now)
      (running : s.transactions.lookup lookup.catalog = some lookup.cache) : Flying s s' number lookup
  | found {lookup : CacheLookup Alias} {entry : ℕ} (flying : s.lookups number = some lookup)
      (first : lookup.entry = none) (slot : (s'.caches lookup.cache).slots lookup.map lookup.key = some entry) :
      Flying s s' number { lookup with entry := some entry }

theorem lookups_step {number : ℕ} {lookup : CacheLookup Alias} (stepped : Step s action s')
    (flying : s'.lookups number = some lookup) : Flying s s' number lookup := by
  cases stepped with
  | setScope | setListings | rollback | startLoad | startListing | answerListing | beginWrite | invalidateConnection
  | invalidateListings | writeElsewhere => exact .same flying
  | commit | queryEnd =>
      simp only [tick] at flying
      split_ifs at flying
      · exact .same flying
      · exact .same flying
  | beginTransaction => exact .same (by simpa [tick] using flying)
  | invalidateTransaction => exact .same (by simpa [tick, setPhase] using flying)
  | finishLoad | failLoad | storeFetched | answerCached => exact .same (lookup_of_done flying)
  | startLookup running earlier =>
      simp only [tick] at flying
      by_cases same : number = s.lookupsMade
      · subst same
        rw [Function.update_self] at flying
        cases flying
        exact .started rfl rfl running
      · rw [Function.update_of_ne same] at flying
        exact .same flying
  | @findEntry finder one known first =>
      obtain ⟨entry, lookups, slot⟩ := @lookups_findEntry Alias s finder one
      change (s.findEntry finder one).lookups number = some lookup at flying
      rw [lookups] at flying
      by_cases same : number = finder
      · subst same
        rw [Function.update_self] at flying
        cases flying
        exact .found known first slot
      · rw [Function.update_of_ne same] at flying
        exact .same flying

theorem listings_step {directory : Text} {loaded : ℕ} (stepped : Step s action s')
    (listed : s'.listings directory = some loaded) : s.listings directory = some loaded ∨ loaded = s.now := by
  cases stepped with
  | setScope | setListings | startLookup | startLoad | finishLoad | failLoad | storeFetched | answerCached
  | startListing | beginWrite | invalidateConnection => exact .inl listed
  | rollback | invalidateListings | writeElsewhere => cases listed
  | commit | queryEnd =>
      simp only [tick] at listed
      split_ifs at listed
      · exact .inl listed
      · cases listed
  | beginTransaction =>
      left
      simp only [tick, startTransaction] at listed
      split_ifs at listed
      · split at listed <;> exact listed
      · exact listed
  | invalidateTransaction =>
      left
      simp only [tick, setPhase] at listed
      rwa [clearTransaction_listings] at listed
  | findEntry =>
      left
      simp only [tick, findEntry] at listed
      split at listed <;> exact listed
  | @answerListing _ _ other _ =>
      simp only [tick] at listed
      by_cases same : directory = other
      · subst same
        rw [Function.update_self] at listed
        cases known : s.listings directory with
        | none =>
            rw [known] at listed
            exact .inr (Option.some.inj listed).symm
        | some before =>
            rw [known] at listed
            exact .inl listed
      · rw [Function.update_of_ne same] at listed
        exact .inl listed

/-- A new answer is a source of the entry its lookup found, or a listing. -/
theorem answers_step {answer : CacheAnswer} (stepped : Step s action s') (answered : answer ∈ s'.answers) :
    answer ∈ s.answers ∨
      (∃ number lookup entry, s.lookups number = some lookup ∧ lookup.entry = some entry ∧
        answer.started = lookup.started ∧ s.Source entry answer.loaded) ∨
      ∃ number directory, s.listingLookups number = some (answer.started, directory) ∧
        (answer.loaded = s.now ∨ s.listings directory = some answer.loaded) := by
  cases stepped with
  | setScope | setListings | rollback | startLookup | startLoad | failLoad | startListing | beginWrite
  | invalidateConnection | invalidateListings | writeElsewhere => exact .inl answered
  | commit | queryEnd =>
      simp only [tick] at answered
      split_ifs at answered
      · exact .inl answered
      · exact .inl answered
  | beginTransaction =>
      left
      simp only [tick] at answered
      rwa [startTransaction_answers] at answered
  | invalidateTransaction =>
      left
      simp only [tick, setPhase] at answered
      rwa [clearTransaction_answers] at answered
  | findEntry =>
      left
      simp only [tick, findEntry] at answered
      split at answered <;> exact answered
  | finishLoad flying found loading =>
      cases List.mem_append.mp answered with
      | inl known => exact .inl known
      | inr new =>
          obtain rfl := List.mem_singleton.mp new
          exact .inr (.inl ⟨_, _, _, flying, found, rfl, .loading loading⟩)
  | storeFetched flying found fetched empty =>
      cases List.mem_append.mp answered with
      | inl known => exact .inl known
      | inr new =>
          obtain rfl := List.mem_singleton.mp new
          exact .inr (.inl ⟨_, _, _, flying, found, rfl, .fetched flying found fetched⟩)
  | answerCached flying found unlocked cached =>
      cases List.mem_append.mp answered with
      | inl known => exact .inl known
      | inr new =>
          obtain rfl := List.mem_singleton.mp new
          exact .inr (.inl ⟨_, _, _, flying, found, rfl, .value cached⟩)
  | @answerListing number _ directory flying =>
      cases List.mem_append.mp answered with
      | inl known => exact .inl known
      | inr new =>
          obtain rfl := List.mem_singleton.mp new
          refine .inr (.inr ⟨number, directory, flying, ?_⟩)
          cases s.listings directory with
          | none => exact .inl rfl
          | some before => exact .inr rfl

/-- A write is as it was, has just begun, or is a step further. -/
inductive Writing (s s' : Connection Alias) (number : ℕ) : CacheAction Alias → CacheWrite Alias → Prop where
  | same {action : CacheAction Alias} {write : CacheWrite Alias} (written : s.writes number = some write) :
      Writing s s' number action write
  | begun {action : CacheAction Alias} {write : CacheWrite Alias} (phase : write.phase = .writing)
      (now : write.began = s.now) : Writing s s' number action write
  | clearedTransaction {write : CacheWrite Alias} (written : s.writes number = some write)
      (phase : write.phase = .writing)
      (cleared : ∀ cache, s'.transactions.lookup write.catalog = some cache → EmptyCache s' cache) :
      Writing s s' number (.invalidateTransaction number) { write with phase := .clearedTransaction }
  | clearedConnection {write : CacheWrite Alias} (written : s.writes number = some write)
      (phase : write.phase = .clearedTransaction)
      (cleared : s' = (s.clearConnection.setPhase number write .clearedConnection).tick) :
      Writing s s' number (.invalidateConnection number) { write with phase := .clearedConnection }
  | finished {write : CacheWrite Alias} (written : s.writes number = some write)
      (phase : write.phase = .clearedConnection) (cleared : ∀ directory, s'.listings directory = none) :
      Writing s s' number (.invalidateListings number) { write with phase := .finished s.now }

theorem writes_step {number : ℕ} {write : CacheWrite Alias} (stepped : Step s action s')
    (written : s'.writes number = some write) : Writing s s' number action write := by
  cases stepped with
  | setScope | setListings | rollback | startLookup | startLoad | finishLoad | failLoad | storeFetched | answerCached
  | startListing | answerListing | writeElsewhere => exact .same written
  | commit | queryEnd =>
      simp only [tick] at written
      split_ifs at written
      · exact .same written
      · exact .same written
  | beginTransaction =>
      simp only [tick] at written
      rw [startTransaction_writes] at written
      exact .same written
  | findEntry =>
      simp only [tick, findEntry] at written
      split at written <;> exact .same written
  | beginWrite =>
      simp only [tick] at written
      by_cases same : number = s.writesMade
      · subst same
        rw [Function.update_self] at written
        cases written
        exact .begun rfl rfl
      · rw [Function.update_of_ne same] at written
        exact .same written
  | @invalidateTransaction other before known phase =>
      simp only [tick, setPhase] at written
      by_cases same : number = other
      · subst same
        rw [Function.update_self] at written
        cases written
        exact .clearedTransaction known phase fun cache running => empty_clearTransaction running
      · rw [Function.update_of_ne same, clearTransaction_writes] at written
        exact .same written
  | @invalidateConnection other before known phase =>
      simp only [tick, setPhase] at written
      by_cases same : number = other
      · subst same
        rw [Function.update_self] at written
        cases written
        exact .clearedConnection known phase rfl
      · rw [Function.update_of_ne same] at written
        exact .same written
  | @invalidateListings other before known phase =>
      simp only [tick, setPhase] at written
      by_cases same : number = other
      · subst same
        rw [Function.update_self] at written
        cases written
        exact .finished known phase fun _ => rfl
      · rw [Function.update_of_ne same] at written
        exact .same written

theorem now_step (stepped : Step s action s') : s'.now = s.now + 1 := by
  cases stepped with
  | setScope | setListings | rollback | startLookup | startLoad | finishLoad | failLoad | storeFetched | answerCached
  | startListing | answerListing | beginWrite | invalidateConnection | invalidateListings | writeElsewhere => rfl
  | commit | queryEnd =>
      simp only [tick]
      split_ifs <;> rfl
  | beginTransaction => simp [tick]
  | invalidateTransaction => simp [tick, setPhase]
  | findEntry =>
      simp only [tick, findEntry]
      split <;> rfl

theorem entriesMade_step (stepped : Step s action s') : s.entriesMade ≤ s'.entriesMade := by
  cases stepped with
  | setScope | setListings | rollback | startLookup | startLoad | finishLoad | failLoad | storeFetched | answerCached
  | startListing | answerListing | beginWrite | invalidateConnection | invalidateListings | writeElsewhere =>
      exact le_rfl
  | commit | queryEnd =>
      simp only [tick]
      split_ifs <;> exact le_rfl
  | beginTransaction => simp [tick]
  | invalidateTransaction => simp [tick, setPhase]
  | findEntry =>
      simp only [tick, findEntry]
      split
      · exact le_rfl
      · exact Nat.le_succ _

theorem listingLookups_step {number started : ℕ} {directory : Text} (stepped : Step s action s')
    (flying : s'.listingLookups number = some (started, directory)) :
    s.listingLookups number = some (started, directory) ∨ started = s.now := by
  cases stepped with
  | setScope | setListings | rollback | startLookup | startLoad | finishLoad | failLoad | storeFetched | answerCached
  | beginWrite | invalidateConnection | invalidateListings | writeElsewhere => exact .inl flying
  | commit | queryEnd =>
      simp only [tick] at flying
      split_ifs at flying <;> exact .inl flying
  | beginTransaction => exact .inl (by simpa [tick] using flying)
  | invalidateTransaction => exact .inl (by simpa [tick, setPhase] using flying)
  | findEntry =>
      simp only [tick, findEntry] at flying
      split at flying <;> exact .inl flying
  | startListing =>
      simp only [tick] at flying
      by_cases same : number = s.lookupsMade
      · subst same
        rw [Function.update_self] at flying
        cases flying
        exact .inr rfl
      · rw [Function.update_of_ne same] at flying
        exact .inl flying
  | @answerListing other _ _ _ =>
      simp only [tick] at flying
      by_cases same : number = other
      · subst same
        rw [Function.update_self] at flying
        cases flying
      · rw [Function.update_of_ne same] at flying
        exact .inl flying

end Components

variable (s)

/-- What has happened lies in the past. -/
structure Bounded : Prop where
  attached : ∀ number lookup entry, s.lookups number = some lookup → lookup.entry = some entry → entry < s.entriesMade
  slots : ∀ cache map key entry, (s.caches cache).slots map key = some entry → entry < s.entriesMade
  lookups : ∀ number lookup, s.lookups number = some lookup → lookup.started < s.now
  listingLookups : ∀ number started directory, s.listingLookups number = some (started, directory) → started < s.now
  answers : ∀ answer ∈ s.answers, answer.started < s.now
  writes : ∀ number write, s.writes number = some write → write.began < s.now

variable {s}

omit [DecidableEq Alias] in
theorem bounded_init : ({} : Connection Alias).Bounded where
  attached := by simp
  slots := by simp
  lookups := by simp
  listingLookups := by simp
  answers := by simp
  writes := by simp

theorem bounded_step (stepped : Step s action s') (bounded : s.Bounded) : s'.Bounded := by
  have now := now_step stepped
  have made := entriesMade_step stepped
  have slots : ∀ cache map key entry, (s'.caches cache).slots map key = some entry → entry < s'.entriesMade := by
    intro cache map key entry slot
    cases slots_step stepped slot with
    | inl known => exact (bounded.slots _ _ _ _ known).trans_le made
    | inr new =>
        obtain ⟨number, lookup, -, -, rfl, none, rfl⟩ := new
        simp only [tick, findEntry, none]
        omega
  refine ⟨?_, slots, ?_, ?_, ?_, ?_⟩
  · intro number lookup entry flying found
    cases lookups_step stepped flying with
    | same known => exact (bounded.attached _ _ _ known found).trans_le made
    | started first _ _ => rw [first] at found; cases found
    | found _ _ slot =>
        cases found
        exact slots _ _ _ _ slot
  · intro number lookup flying
    cases lookups_step stepped flying with
    | same known =>
        have before := bounded.lookups _ _ known
        omega
    | started _ here _ => omega
    | found known _ _ =>
        have before := bounded.lookups _ _ known
        dsimp only
        omega
  · intro number started directory flying
    cases listingLookups_step stepped flying with
    | inl known =>
        have before := bounded.listingLookups _ _ _ known
        omega
    | inr here => omega
  · intro answer answered
    cases answers_step stepped answered with
    | inl known =>
        have before := bounded.answers _ known
        omega
    | inr new =>
        cases new with
        | inl found =>
            obtain ⟨_, _, _, flying, -, started, -⟩ := found
            have before := bounded.lookups _ _ flying
            omega
        | inr listed =>
            obtain ⟨_, _, flying, -⟩ := listed
            have before := bounded.listingLookups _ _ _ flying
            omega
  · intro number write written
    cases writes_step stepped written with
    | same known =>
        have before := bounded.writes _ _ known
        omega
    | begun _ here => omega
    | clearedTransaction known _ _ | clearedConnection known _ _ | finished known _ _ =>
        have before := bounded.writes _ _ known
        dsimp only
        omega


section Fresh

variable {number cache : ℕ} {write : CacheWrite Alias} (stepped : Step s action s') (met : s.Meets action)
  (bounded : s.Bounded) (written : s.writes number = some write) (begun : write.phase ≠ .writing)
include stepped met bounded written begun

theorem freshEntry_step {entry : ℕ} (fresh : s.FreshEntry write.began entry) : s'.FreshEntry write.began entry := by
  intro started source
  cases source_step stepped source with
  | inl known =>
      cases known with
      | inl known => exact fresh started known
      | inr now => exact now ▸ (bounded.writes _ _ written).le
  | inr early =>
      obtain ⟨finder, lookup, rfl, flying, fetched⟩ := early
      exact met lookup started flying fetched number write written begun

theorem freshCache_step (fresh : s.FreshCache write.began cache) : s'.FreshCache write.began cache := by
  intro map key entry slot
  cases slots_step stepped slot with
  | inl known => exact freshEntry_step stepped met bounded written begun (fresh map key entry known)
  | inr new =>
      obtain ⟨finder, lookup, rfl, flying, rfl, none, rfl⟩ := new
      intro started source
      simp only [findEntry, none, tick] at source
      cases source with
      | value cached => simp at cached
      | loading loads => simp at loads
      | @fetched other _ one flying' found fetched =>
          dsimp only at flying'
          by_cases same : other = finder
          · subst same
            rw [Function.update_self] at flying'
            cases flying'
            exact met lookup started flying fetched number write written begun
          · rw [Function.update_of_ne same] at flying'
            have before := bounded.attached _ _ _ flying' found
            omega

end Fresh

omit [DecidableEq Alias] in
theorem freshCache_of_empty {began cache : ℕ} (empty : EmptyCache s cache) : s.FreshCache began cache := by
  intro map key entry slot
  rw [empty map key] at slot
  cases slot

variable (s)

/-- What a write has invalidated holds nothing from before it. -/
structure Current : Prop where
  /-- The transaction the write clears first, unless it runs on the connection's cache. -/
  own : ∀ number write, s.writes number = some write → write.phase ≠ .writing → ∀ cache,
    s.transactions.lookup write.catalog = some cache →
    s.connectionCaches.lookup write.catalog = some cache ∨ s.FreshCache write.began cache
  transactions : ∀ number write, s.writes number = some write →
    (write.phase = .clearedConnection ∨ ∃ finished, write.phase = .finished finished) → ∀ catalog cache,
    s.transactions.lookup catalog = some cache → s.FreshCache write.began cache
  connection : ∀ number write, s.writes number = some write →
    (write.phase = .clearedConnection ∨ ∃ finished, write.phase = .finished finished) → ∀ catalog cache,
    s.connectionCaches.lookup catalog = some cache → s.FreshCache write.began cache
  listings : ∀ number write finished, s.writes number = some write → write.phase = .finished finished →
    ∀ directory loaded, s.listings directory = some loaded → write.began ≤ loaded
  lookups : ∀ number write finished, s.writes number = some write → write.phase = .finished finished →
    ∀ other lookup, s.lookups other = some lookup → finished ≤ lookup.started →
    (lookup.entry = none → s.FreshCache write.began lookup.cache) ∧
      ∀ entry, lookup.entry = some entry → s.FreshEntry write.began entry
  answers : s.NoStaleAnswer

variable {s}

omit [DecidableEq Alias] in
theorem notWriting_of_cleared {phase : WritePhase}
    (cleared : phase = .clearedConnection ∨ ∃ finished, phase = .finished finished) : phase ≠ .writing := by
  rintro rfl
  simp at cleared

section Invalidated

variable (stepped : Step s action s') (met : s.Meets action) (bounded : s.Bounded) (current : s.Current)
include stepped met bounded current

theorem own_step (number : ℕ) (write : CacheWrite Alias) (written : s'.writes number = some write)
    (begun : write.phase ≠ .writing) (cache : ℕ) (running : s'.transactions.lookup write.catalog = some cache) :
    s'.connectionCaches.lookup write.catalog = some cache ∨ s'.FreshCache write.began cache := by
  have follows := follows_step stepped
  -- a transaction known before has kept what it had
  have known : ∀ before, s.writes number = some before → before.phase ≠ .writing →
      s'.transactions.lookup before.catalog = some cache →
      s'.connectionCaches.lookup before.catalog = some cache ∨ s'.FreshCache before.began cache := by
    intro before written begun running
    cases follows.transactions _ _ running with
    | inl same =>
        cases current.own number before written begun cache same with
        | inl shared => exact .inl (follows.kept _ _ shared)
        | inr fresh => exact .inr (freshCache_step stepped met bounded written begun fresh)
    | inr new => exact new.imp_right freshCache_of_empty
  cases writes_step stepped written with
  | same old => exact known write old begun running
  | begun phase _ => exact absurd phase begun
  | clearedTransaction _ _ cleared => exact .inr (freshCache_of_empty (cleared cache running))
  | @clearedConnection before old phase _ => exact known before old (by simp [phase]) running
  | @finished before old phase _ => exact known before old (by simp [phase]) running

theorem transactions_step (number : ℕ) (write : CacheWrite Alias) (written : s'.writes number = some write)
    (cleared : write.phase = .clearedConnection ∨ ∃ finished, write.phase = .finished finished) (catalog : Alias)
    (cache : ℕ) (running : s'.transactions.lookup catalog = some cache) : s'.FreshCache write.began cache := by
  have follows := follows_step stepped
  have known : ∀ before, s.writes number = some before →
      (before.phase = .clearedConnection ∨ ∃ finished, before.phase = .finished finished) →
      s'.FreshCache before.began cache := by
    intro before written cleared
    have step := @freshCache_step _ _ s s' _ number cache before stepped met bounded written
      (notWriting_of_cleared cleared)
    cases follows.transactions _ _ running with
    | inl same => exact step (current.transactions number before written cleared catalog cache same)
    | inr new =>
        cases new with
        | inr empty => exact freshCache_of_empty empty
        | inl shared =>
            cases follows.new _ _ shared with
            | inl old => exact step (current.connection number before written cleared catalog cache old)
            | inr empty => exact freshCache_of_empty empty
  cases writes_step stepped written with
  | same old => exact known write old cleared
  | begun phase _ => simp [phase] at cleared
  | clearedTransaction _ _ _ => simp at cleared
  | @finished before old phase _ => exact known before old (.inl phase)
  | @clearedConnection before old phase after =>
      subst after
      have step := @freshCache_step _ _ s _ _ number cache before stepped met bounded old (by simp [phase])
      change s.transactions.lookup catalog = some cache at running
      cases shared : s.isConnectionCache cache with
      | true => exact freshCache_of_empty (empty_clearConnection shared)
      | false =>
          by_cases same : catalog = before.catalog
          · subst same
            cases current.own number before old (by simp [phase]) cache running with
            | inl own => rw [isConnectionCache_of_lookup own] at shared; cases shared
            | inr fresh => exact step fresh
          · exact step (met before old catalog cache running same shared)

theorem connection_step (number : ℕ) (write : CacheWrite Alias) (written : s'.writes number = some write)
    (cleared : write.phase = .clearedConnection ∨ ∃ finished, write.phase = .finished finished) (catalog : Alias)
    (cache : ℕ) (shared : s'.connectionCaches.lookup catalog = some cache) : s'.FreshCache write.began cache := by
  have known : ∀ before, s.writes number = some before →
      (before.phase = .clearedConnection ∨ ∃ finished, before.phase = .finished finished) →
      s'.FreshCache before.began cache := by
    intro before written cleared
    cases (follows_step stepped).new _ _ shared with
    | inl old =>
        exact freshCache_step stepped met bounded written (notWriting_of_cleared cleared)
          (current.connection number before written cleared catalog cache old)
    | inr empty => exact freshCache_of_empty empty
  cases writes_step stepped written with
  | same old => exact known write old cleared
  | begun phase _ => simp [phase] at cleared
  | clearedTransaction _ _ _ => simp at cleared
  | @finished before old phase _ => exact known before old (.inl phase)
  | clearedConnection _ _ after =>
      subst after
      exact freshCache_of_empty (empty_clearConnection (isConnectionCache_of_lookup shared))

theorem current_listings_step (number : ℕ) (write : CacheWrite Alias) (finished : ℕ)
    (written : s'.writes number = some write) (phase : write.phase = .finished finished) (directory : Text)
    (loaded : ℕ) (listed : s'.listings directory = some loaded) : write.began ≤ loaded := by
  cases writes_step stepped written with
  | same old =>
      cases listings_step stepped listed with
      | inl known => exact current.listings number write finished old phase directory loaded known
      | inr now => exact now ▸ (bounded.writes _ _ old).le
  | begun writing _ => rw [writing] at phase; cases phase
  | clearedTransaction _ _ _ => cases phase
  | clearedConnection _ _ _ => cases phase
  | finished _ _ cleared => rw [cleared directory] at listed; cases listed

theorem current_lookups_step (number : ℕ) (write : CacheWrite Alias) (finished : ℕ)
    (written : s'.writes number = some write) (phase : write.phase = .finished finished) (other : ℕ)
    (lookup : CacheLookup Alias) (flying : s'.lookups other = some lookup) (later : finished ≤ lookup.started) :
    (lookup.entry = none → s'.FreshCache write.began lookup.cache) ∧
      ∀ entry, lookup.entry = some entry → s'.FreshEntry write.began entry := by
  cases writes_step stepped written with
  | begun writing _ => rw [writing] at phase; cases phase
  | clearedTransaction _ _ _ => cases phase
  | clearedConnection _ _ _ => cases phase
  | @finished before old cleared _ =>
      cases phase
      cases lookups_step stepped flying with
      -- the lookups found before started earlier
      | same known =>
          have early := bounded.lookups _ _ known
          omega
      | found known _ _ =>
          have early := bounded.lookups _ _ known
          dsimp only at later
          omega
      | started first _ running =>
          refine ⟨fun _ => ?_, fun entry here => by rw [first] at here; cases here⟩
          exact @freshCache_step _ _ s s' _ number _ before stepped met bounded old (by simp [cleared])
            (current.transactions number before old (.inl cleared) _ _ running)
  | same old =>
      have begun : write.phase ≠ .writing := by simp [phase]
      cases lookups_step stepped flying with
      | same known =>
          obtain ⟨lost, found⟩ := current.lookups number write finished old phase other lookup known later
          exact ⟨fun first => freshCache_step stepped met bounded old begun (lost first),
            fun entry here => freshEntry_step stepped met bounded old begun (found entry here)⟩
      | started first _ running =>
          refine ⟨fun _ => ?_, fun entry here => by rw [first] at here; cases here⟩
          exact freshCache_step stepped met bounded old begun
            (current.transactions number write old (.inr ⟨finished, phase⟩) _ _ running)
      | found known first slot =>
          obtain ⟨lost, -⟩ := current.lookups number write finished old phase other _ known later
          constructor
          · intro none
            cases none
          · intro entry here
            cases here
            exact freshCache_step stepped met bounded old begun (lost first) _ _ _ slot

theorem current_answers_step : s'.NoStaleAnswer := by
  intro answer answered number write finished written phase later
  cases writes_step stepped written with
  | begun writing _ => rw [writing] at phase; cases phase
  | clearedTransaction _ _ _ => cases phase
  | clearedConnection _ _ _ => cases phase
  | finished _ _ _ =>
      -- every answer is to a lookup that started earlier
      cases phase
      cases answers_step stepped answered with
      | inl known =>
          have early := bounded.answers _ known
          omega
      | inr new =>
          cases new with
          | inl found =>
              obtain ⟨_, _, _, flying, -, started, -⟩ := found
              have early := bounded.lookups _ _ flying
              omega
          | inr listed =>
              obtain ⟨_, _, flying, -⟩ := listed
              have early := bounded.listingLookups _ _ _ flying
              omega
  | same old =>
      cases answers_step stepped answered with
      | inl known => exact current.answers answer known number write finished old phase later
      | inr new =>
          cases new with
          | inl found =>
              obtain ⟨_, lookup, entry, flying, here, started, source⟩ := found
              rw [started] at later
              exact (current.lookups number write finished old phase _ lookup flying later).2 entry here _ source
          | inr listed =>
              obtain ⟨_, directory, _, loaded⟩ := listed
              cases loaded with
              | inl now => exact now ▸ (bounded.writes _ _ old).le
              | inr known => exact current.listings number write finished old phase directory _ known

end Invalidated

theorem current_step (stepped : Step s action s') (met : s.Meets action) (bounded : s.Bounded) (current : s.Current) :
    s'.Current where
  own := own_step stepped met bounded current
  transactions := transactions_step stepped met bounded current
  connection := connection_step stepped met bounded current
  listings := current_listings_step stepped met bounded current
  lookups := current_lookups_step stepped met bounded current
  answers := current_answers_step stepped met bounded current

theorem current_init : ({} : Connection Alias).Current where
  own := by simp
  transactions := by simp
  connection := by simp
  listings := by simp
  lookups := by simp
  answers := by simp [NoStaleAnswer]

/-- A step that leaves no stale value behind. -/
def FreshStep (s : Connection Alias) (action : CacheAction Alias) (s' : Connection Alias) : Prop :=
  s.Meets action ∧ Step s action s'

/-- No cache serves data older than a finished write. -/
theorem noStaleAnswer_of_run {actions : List (CacheAction Alias)} (run : Run FreshStep {} actions s) :
    s.NoStaleAnswer := by
  have kept : ∀ {t : Connection Alias} {action t'}, FreshStep t action t' → t.Bounded ∧ t.Current →
      t'.Bounded ∧ t'.Current := by
    intro t action t' fresh holds
    obtain ⟨bounded, current⟩ := holds
    exact ⟨bounded_step fresh.2 bounded, current_step fresh.2 fresh.1 bounded current⟩
  have reached := @Run.invariant _ _ _ _ _ _ (fun t => t.Bounded ∧ t.Current) kept run ⟨bounded_init, current_init⟩
  exact reached.2.answers

section Examples

/-- A table is looked up through the second alias before and after a write through the
first, in one transaction. -/
def staleRun : List (CacheAction Bool) :=
  [.beginTransaction true, .startLookup true .tables "db" "t" none, .findEntry 0, .startLoad 0, .finishLoad 0,
    .beginWrite false, .invalidateTransaction 0, .invalidateConnection 0, .invalidateListings 0,
    .startLookup true .tables "db" "t" none, .findEntry 1, .answerCached 1]

theorem staleAnswer : ¬ ∀ (actions : List (CacheAction Bool)) (s : Connection Bool),
    Run Step {} actions s → s.NoStaleAnswer := by
  intro always
  have run : ∃ s : Connection Bool, Run Step {} staleRun s ∧ ⟨9, 3⟩ ∈ s.answers ∧
      ∃ write, s.writes 0 = some write ∧ write.phase = .finished 8 ∧ write.began = 5 := by
    refine ⟨_, .cons (.beginTransaction rfl) <| .cons (.startLookup rfl (by simp)) <| .cons (.findEntry rfl rfl) <|
      .cons (.startLoad rfl rfl rfl rfl) <| .cons (.finishLoad rfl rfl rfl) <| .cons .beginWrite <|
      .cons (.invalidateTransaction rfl rfl) <| .cons (.invalidateConnection rfl rfl) <|
      .cons (.invalidateListings rfl rfl) <| .cons (.startLookup rfl (by simp)) <| .cons (.findEntry rfl rfl) <|
      .cons (.answerCached rfl rfl rfl rfl) .nil, ?_, _, rfl, rfl, rfl⟩
    exact List.mem_append_right _ (List.mem_singleton_self _)
  obtain ⟨s, run, answered, write, written, finished, began⟩ := run
  have fresh := always _ s run _ answered 0 write 8 written finished (by decide)
  rw [began] at fresh
  exact absurd fresh (by decide)

/-- Through the alias of the write the second lookup loads the table again. -/
def freshRun : List (CacheAction Bool) :=
  [.beginTransaction false, .startLookup false .tables "db" "t" none, .findEntry 0, .startLoad 0, .finishLoad 0,
    .beginWrite false, .invalidateTransaction 0, .invalidateConnection 0, .invalidateListings 0,
    .startLookup false .tables "db" "t" none, .findEntry 1, .startLoad 1, .finishLoad 1]

theorem noStaleAnswer_of_freshRun : ∃ s : Connection Bool, Run FreshStep {} freshRun s ∧ s.NoStaleAnswer := by
  have run : ∃ s : Connection Bool, Run FreshStep {} freshRun s := by
    refine ⟨_, .cons ⟨trivial, .beginTransaction rfl⟩ <| .cons ⟨trivial, .startLookup rfl (by simp)⟩ <|
      .cons ⟨?_, .findEntry rfl rfl⟩ <| .cons ⟨trivial, .startLoad rfl rfl rfl rfl⟩ <|
      .cons ⟨trivial, .finishLoad rfl rfl rfl⟩ <| .cons ⟨trivial, .beginWrite⟩ <|
      .cons ⟨trivial, .invalidateTransaction rfl rfl⟩ <| .cons ⟨?_, .invalidateConnection rfl rfl⟩ <|
      .cons ⟨trivial, .invalidateListings rfl rfl⟩ <| .cons ⟨trivial, .startLookup rfl (by simp)⟩ <|
      .cons ⟨?_, .findEntry rfl rfl⟩ <| .cons ⟨trivial, .startLoad rfl rfl rfl rfl⟩ <|
      .cons ⟨trivial, .finishLoad rfl rfl rfl⟩ .nil⟩
    · intro lookup before flying fetched
      cases flying
      cases fetched
    · intro write written catalog cache running differs
      cases written
      cases catalog with
      | false => exact absurd rfl differs
      | true => cases running
    · intro lookup before flying fetched
      cases flying
      cases fetched
  obtain ⟨s, run⟩ := run
  exact ⟨s, run, noStaleAnswer_of_run run⟩

end Examples

end Connection

end DuckGlue
