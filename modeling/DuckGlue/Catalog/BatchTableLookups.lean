import DuckGlue.Catalog.GlueTableSet
import Mathlib.Data.List.Nodup

/-! # Batched table lookups

The first lookup of an unknown table asks Glue for that table. Under
`glue_batch_table_lookup` a later one first reads a page of all tables into the metadata
cache of its transaction. The lookups of any transactions on one set, one after another,
while what Glue holds stays the same.
-/

namespace DuckGlue

open StringUtil

/-- What Glue holds in a database, by lower case name. -/
structure GlueDatabase where
  tables : AList (fun _ : Text => GlueTableInfo) := ∅
  named : ∀ key table, tables.lookup key = some table → lower table.name = key

/-- `GlueAPI::GetTable` -/
def GlueDatabase.getTable (database : GlueDatabase) (name : Text) : Option GlueTableInfo :=
  database.tables.lookup (lower name)

/-- How `GlueAPI::GetTables` ends for a single page. -/
inductive FirstPage (database : GlueDatabase) where
  | page (tables : List GlueTableInfo) (held : ∀ table ∈ tables, database.getTable table.name = some table)
  | failed
  | denied

def FirstPage.isPage {database : GlueDatabase} : FirstPage database → Bool
  | .page _ _ => true
  | .failed | .denied => false

/-- A lookup and the end of the GetTables it makes, if it makes one. -/
structure BatchLookup (database : GlueDatabase) where
  cache : ℕ
  name : Text
  firstPage : FirstPage database

/-- What happens to a table set and the metadata caches its lookups use. -/
inductive LookupStep (database : GlueDatabase) where
  | getEntry (lookup : BatchLookup database)
  /-- A rollback clears a cache of the connection; the cache keeps its id. -/
  | clear (cache : ℕ)

structure LookupState where
  set : GlueTableSet := {}
  /-- The number of the next entry. -/
  objects : ℕ := 0
  directLookups : ℕ := 0
  /-- 0 = none yet. -/
  bulkLoadedCacheId : ℕ := 0
  batchForbidden : Bool := false
  /-- The cached definitions of each cache, by lower case name. -/
  caches : ℕ → AList (fun _ : Text => GlueTableInfo) := fun _ => ∅
  /-- The caches pages were read for, the last one first. -/
  pages : List ℕ := []

abbrev LookupAnswer := Except Exception (Option CatalogEntry)

namespace LookupState

variable (s : LookupState)

/-- `GlueTransactionCache::GetTable`; no value is cached for a table that is absent. -/
def cacheTable (cache : ℕ) (name : Text) (load : Option GlueTableInfo) : LookupState × Option GlueTableInfo :=
  match (s.caches cache).lookup (lower name) with
  | some table => (s, some table)
  | none =>
      match load with
      | some table =>
          ({ s with caches := Function.update s.caches cache ((s.caches cache).insert (lower name) table) }, some table)
      | none => (s, none)

/-- The loop over the tables of a page: what is cached already wins. -/
def warm (cache : ℕ) : List GlueTableInfo → LookupState → LookupState
  | [], s => s
  | table :: tables, s => warm cache tables (s.cacheTable cache table.name (some table)).1

/-- `BulkLoadTableInfo` -/
def bulkLoadTableInfo {database : GlueDatabase} (cache : ℕ) : FirstPage database → LookupState
  | .page tables _ =>
      warm cache tables { s with directLookups := 0, bulkLoadedCacheId := cache, pages := cache :: s.pages }
  | .failed => { s with directLookups := 0 }
  | .denied => { s with directLookups := 0, batchForbidden := true }

/-- Whether a lookup makes a bulk fetch first. -/
def bulkLoads (batch : Bool) (cache : ℕ) (name : Text) : Bool :=
  (s.set.find name).isNone && !s.batchForbidden && cache != s.bulkLoadedCacheId && decide (0 < s.directLookups) && batch

/-- The name in the case of the entry that is there. -/
def glueName (name : Text) : Text :=
  match s.set.find name with
  | some existing => existing.info.name
  | none => name

variable {database : GlueDatabase}

/-- The state a lookup resolves its table in. -/
def prepared (batch : Bool) (lookup : BatchLookup database) : LookupState :=
  if s.bulkLoads batch lookup.cache lookup.name then s.bulkLoadTableInfo lookup.cache lookup.firstPage else s

/-- `GlueTableSet::GetEntry`. A table that was not cached has cost a round trip, which counts if
the set had no entry of the name. -/
def getEntry (batch : Bool) (lookup : BatchLookup database) : LookupState × LookupAnswer :=
  let cached := (s.set.find lookup.name).isSome
  let name := s.glueName lookup.name
  let ready := s.prepared batch lookup
  let askedGlue := ((ready.caches lookup.cache).lookup (lower name)).isNone
  let (resolved, table) := ready.cacheTable lookup.cache name (database.getTable name)
  let counted := if !cached && askedGlue then resolved.directLookups + 1 else resolved.directLookups
  let (change, answer) := resolved.set.getEntry resolved.objects name table
  ({ resolved with set := change.set, objects := resolved.objects + 1, directLookups := counted }, answer)

/-- `Clear` -/
def clear (cache : ℕ) : LookupState := { s with caches := Function.update s.caches cache ∅ }

/-- The state after the steps and what the lookups returned. -/
def run (batch : Bool) : LookupState → List (LookupStep database) → LookupState × List LookupAnswer
  | s, [] => (s, [])
  | s, .clear cache :: steps => run batch (s.clear cache) steps
  | s, .getEntry lookup :: steps =>
      let (next, answer) := s.getEntry batch lookup
      let (last, answers) := run batch next steps
      (last, answer :: answers)

/-! ## What a lookup resolves -/

/-- What a cache gives for a name: its own value, else what Glue holds. -/
def resolves (database : GlueDatabase) (cache : ℕ) (key : Text) : Option GlueTableInfo :=
  ((s.caches cache).lookup key).or (database.tables.lookup key)

variable {s}

theorem cacheTable_frame (cache : ℕ) (name : Text) (load : Option GlueTableInfo) :
    (s.cacheTable cache name load).1 = { s with caches := (s.cacheTable cache name load).1.caches } := by
  unfold cacheTable
  cases (s.caches cache).lookup (lower name) with
  | some table => rfl
  | none => cases load <;> rfl

theorem cacheTable_table (cache : ℕ) (name : Text) :
    (s.cacheTable cache name (database.getTable name)).2 = s.resolves database cache (lower name) := by
  unfold cacheTable resolves GlueDatabase.getTable
  cases (s.caches cache).lookup (lower name) with
  | some table => rfl
  | none => cases database.tables.lookup (lower name) <;> rfl

/-- Caching what Glue holds does not change what any cache resolves. -/
theorem cacheTable_resolves {cache : ℕ} {name : Text} {load : Option GlueTableInfo}
    (held : load = database.getTable name) (other : ℕ) (key : Text) :
    (s.cacheTable cache name load).1.resolves database other key = s.resolves database other key := by
  unfold cacheTable
  cases cached : (s.caches cache).lookup (lower name) with
  | some table => rfl
  | none =>
      cases load with
      | none => rfl
      | some table =>
          dsimp only [resolves]
          by_cases sameCache : other = cache
          · subst sameCache
            rw [Function.update_self]
            by_cases sameKey : key = lower name
            · rw [sameKey, AList.lookup_insert, cached]
              exact held
            · rw [AList.lookup_insert_ne sameKey]
          · rw [Function.update_of_ne sameCache]

theorem warm_frame (cache : ℕ) (tables : List GlueTableInfo) (s : LookupState) :
    warm cache tables s = { s with caches := (warm cache tables s).caches } := by
  induction tables generalizing s with
  | nil => rfl
  | cons table tables ih =>
      rw [warm, ih, cacheTable_frame]

theorem warm_resolves {cache : ℕ} {tables : List GlueTableInfo}
    (held : ∀ table ∈ tables, database.getTable table.name = some table) (s : LookupState) (other : ℕ) (key : Text) :
    (warm cache tables s).resolves database other key = s.resolves database other key := by
  induction tables generalizing s with
  | nil => rfl
  | cons table tables ih =>
      obtain ⟨first, rest⟩ := List.forall_mem_cons.mp held
      rw [warm, ih rest, cacheTable_resolves first.symm]

/-- A bulk fetch leaves the entries and what the caches resolve. -/
structure Prepares (database : GlueDatabase) (s ready : LookupState) : Prop where
  set : ready.set = s.set
  objects : ready.objects = s.objects
  resolves : ∀ cache key, ready.resolves database cache key = s.resolves database cache key

theorem prepared_prepares (batch : Bool) (lookup : BatchLookup database) :
    Prepares database s (s.prepared batch lookup) := by
  unfold prepared
  split_ifs
  · cases lookup.firstPage with
    | page tables held =>
        constructor
        · rw [bulkLoadTableInfo, warm_frame]
        · rw [bulkLoadTableInfo, warm_frame]
        · intro cache key
          rw [bulkLoadTableInfo, warm_resolves held]
          rfl
    | failed | denied => exact ⟨rfl, rfl, fun _ _ => rfl⟩
  · exact ⟨rfl, rfl, fun _ _ => rfl⟩

/-- The comparison of the set with what the cache of a lookup resolves under its name. -/
def compared (s : LookupState) (lookup : BatchLookup database) : SetChange × LookupAnswer :=
  let name := s.glueName lookup.name
  s.set.getEntry s.objects name (s.resolves database lookup.cache (lower name))

/-- A lookup does that comparison, batched or not. -/
structure LooksUp (s : LookupState) (lookup : BatchLookup database) (result : LookupState × LookupAnswer) : Prop where
  set : result.1.set = (s.compared lookup).1.set
  answer : result.2 = (s.compared lookup).2
  objects : result.1.objects = s.objects + 1
  resolves : ∀ cache key, result.1.resolves database cache key = s.resolves database cache key

theorem getEntry_looksUp (batch : Bool) (lookup : BatchLookup database) :
    LooksUp s lookup (s.getEntry batch lookup) := by
  have prepares := prepared_prepares (s := s) batch lookup
  have frame := cacheTable_frame (s := s.prepared batch lookup) lookup.cache (s.glueName lookup.name)
    (database.getTable (s.glueName lookup.name))
  have set : ((s.prepared batch lookup).cacheTable lookup.cache (s.glueName lookup.name)
      (database.getTable (s.glueName lookup.name))).1.set = s.set := by
    rw [frame]
    exact prepares.set
  have objects : ((s.prepared batch lookup).cacheTable lookup.cache (s.glueName lookup.name)
      (database.getTable (s.glueName lookup.name))).1.objects = s.objects := by
    rw [frame]
    exact prepares.objects
  constructor
  · dsimp only [getEntry, compared]
    rw [set, objects, cacheTable_table, prepares.resolves]
  · dsimp only [getEntry, compared]
    rw [set, objects, cacheTable_table, prepares.resolves]
  · dsimp only [getEntry]
    rw [objects]
  · intro cache key
    exact (cacheTable_resolves rfl cache key).trans (prepares.resolves cache key)

/-- What two states answer every lookup from alike. -/
structure Agrees (database : GlueDatabase) (s t : LookupState) : Prop where
  set : s.set = t.set
  objects : s.objects = t.objects
  resolves : ∀ cache key, s.resolves database cache key = t.resolves database cache key

theorem getEntry_agrees {t : LookupState} (agrees : Agrees database s t) (batch other : Bool)
    (lookup : BatchLookup database) :
    (s.getEntry batch lookup).2 = (t.getEntry other lookup).2 ∧
      Agrees database (s.getEntry batch lookup).1 (t.getEntry other lookup).1 := by
  have left := getEntry_looksUp (s := s) batch lookup
  have right := getEntry_looksUp (s := t) other lookup
  have name : s.glueName lookup.name = t.glueName lookup.name := by rw [glueName, glueName, agrees.set]
  have same : s.compared lookup = t.compared lookup := by
    dsimp only [compared]
    rw [name, agrees.set, agrees.objects, agrees.resolves]
  constructor
  · rw [left.answer, right.answer, same]
  · constructor
    · rw [left.set, right.set, same]
    · rw [left.objects, right.objects, agrees.objects]
    · intro cache key
      rw [left.resolves, right.resolves, agrees.resolves]

theorem clear_agrees {t : LookupState} (agrees : Agrees database s t) (cache : ℕ) :
    Agrees database (s.clear cache) (t.clear cache) := by
  refine ⟨agrees.set, agrees.objects, fun other key => ?_⟩
  dsimp only [clear, resolves]
  by_cases same : other = cache
  · rw [same, Function.update_self, Function.update_self]
  · rw [Function.update_of_ne same, Function.update_of_ne same]
    exact agrees.resolves other key

/-- States that agree answer all lookups alike, whichever of them batches. -/
theorem run_agrees {t : LookupState} (agrees : Agrees database s t) (batch other : Bool)
    (steps : List (LookupStep database)) : (s.run batch steps).2 = (t.run other steps).2 := by
  induction steps generalizing s t with
  | nil => rfl
  | cons step steps ih =>
      cases step with
      | clear cache => exact ih (clear_agrees agrees cache)
      | getEntry lookup =>
          obtain ⟨answer, next⟩ := getEntry_agrees agrees batch other lookup
          exact congrArg₂ List.cons answer (ih next)

/-! ## The pages read for a cache -/

/-- A lookup that would fetch a page has not read one for its cache, unless the last bulk
fetch was the one of its cache. -/
def FetchesOnce (s : LookupState) (lookup : BatchLookup database) : Prop :=
  s.set.find lookup.name = none → s.batchForbidden = false → 0 < s.directLookups → lookup.firstPage.isPage = true →
    lookup.cache ∈ s.pages → lookup.cache = s.bulkLoadedCacheId

def EachFetchesOnce : LookupState → List (LookupStep database) → Prop
  | _, [] => True
  | s, .clear cache :: steps => EachFetchesOnce (s.clear cache) steps
  | s, .getEntry lookup :: steps => s.FetchesOnce lookup ∧ EachFetchesOnce (s.getEntry true lookup).1 steps

theorem bulkLoads_iff {cache : ℕ} {name : Text} :
    s.bulkLoads true cache name = true ↔
      s.set.find name = none ∧ s.batchForbidden = false ∧ cache ≠ s.bulkLoadedCacheId ∧ 0 < s.directLookups := by
  simp [bulkLoads, and_assoc]

/-- What a lookup does to the pages: it adds one of its cache, or leaves them. -/
theorem getEntry_pages (lookup : BatchLookup database) :
    (s.getEntry true lookup).1.pages = lookup.cache :: s.pages ∧
        (s.getEntry true lookup).1.bulkLoadedCacheId = lookup.cache ∧
        s.bulkLoads true lookup.cache lookup.name = true ∧ lookup.firstPage.isPage = true ∨
      (s.getEntry true lookup).1.pages = s.pages ∧
        (s.getEntry true lookup).1.bulkLoadedCacheId = s.bulkLoadedCacheId ∧
        ¬(s.bulkLoads true lookup.cache lookup.name = true ∧ lookup.firstPage.isPage = true) := by
  dsimp only [getEntry]
  rw [cacheTable_frame]
  unfold prepared
  by_cases loads : s.bulkLoads true lookup.cache lookup.name = true
  · rw [if_pos loads]
    cases lookup.firstPage with
    | page tables held =>
        rw [bulkLoadTableInfo, warm_frame]
        exact .inl ⟨rfl, rfl, loads, rfl⟩
    | failed | denied => exact .inr ⟨rfl, rfl, fun both => Bool.false_ne_true both.2⟩
  · rw [if_neg loads]
    exact .inr ⟨rfl, rfl, fun both => loads both.1⟩

/-- A lookup reads a second page for its cache just where it does not fetch once. -/
theorem getEntry_pages_nodup (lookup : BatchLookup database) :
    (s.getEntry true lookup).1.pages.Nodup ↔ s.FetchesOnce lookup ∧ s.pages.Nodup := by
  unfold FetchesOnce
  rcases getEntry_pages (s := s) lookup with ⟨pages, _, loads, page⟩ | ⟨pages, _, fetches⟩
  · obtain ⟨absent, allowed, another, direct⟩ := bulkLoads_iff.mp loads
    rw [pages, List.nodup_cons]
    apply and_congr_left
    intro _
    constructor
    · intro unread _ _ _ _ read
      exact absurd read unread
    · intro once read
      exact another (once absent allowed direct page read)
  · rw [pages, iff_and_self]
    intro _ absent allowed direct page _
    by_contra another
    exact fetches ⟨bulkLoads_iff.mpr ⟨absent, allowed, another, direct⟩, page⟩

theorem run_pages_nodup (s : LookupState) (steps : List (LookupStep database)) :
    (s.run true steps).1.pages.Nodup ↔ s.pages.Nodup ∧ s.EachFetchesOnce steps := by
  induction steps generalizing s with
  | nil => simp [run, EachFetchesOnce]
  | cons step steps ih =>
      cases step with
      | clear cache => exact ih (s.clear cache)
      | getEntry lookup =>
          rw [run, ih, getEntry_pages_nodup, EachFetchesOnce, and_comm (a := s.FetchesOnce lookup), and_assoc]

/-- The lookups of the steps, in order. -/
def lookups : List (LookupStep database) → List (BatchLookup database)
  | [] => []
  | .clear _ :: steps => lookups steps
  | .getEntry lookup :: steps => lookup :: lookups steps

/-- The ids of the caches the lookups are made in, in order. -/
def cacheIds (steps : List (LookupStep database)) : List ℕ := (lookups steps).map (·.cache)

/-- No id comes back after another one: the lookups of each cache follow one another. -/
def OneAfterAnother (ids : List ℕ) : Prop := ∀ id other, [id, other, id].Sublist ids → other = id

/-- Transactions that follow one another, each in a new cache. -/
theorem oneAfterAnother_of_sorted {ids : List ℕ} (sorted : ids.Pairwise (· ≤ ·)) : OneAfterAnother ids := by
  intro id other back
  have inOrder := sorted.sublist back
  simp only [List.pairwise_cons, List.mem_cons, List.not_mem_nil, or_false, forall_eq_or_imp, forall_eq] at inOrder
  omega

/-- What is known of the pages after the lookups in these caches: the page of a cache
that is not the last one was read before another cache's. -/
structure PagesOf (done : List ℕ) (s : LookupState) : Prop where
  looked : ∀ cache ∈ s.pages, cache ∈ done
  before : ∀ cache ∈ s.pages, cache = s.bulkLoadedCacheId ∨ [cache, s.bulkLoadedCacheId].Sublist done

/-- Caches whose lookups follow one another are fetched once. -/
theorem eachFetchesOnce_of_oneAfterAnother {done : List ℕ} {steps : List (LookupStep database)} (pagesOf : PagesOf done s)
    (apart : OneAfterAnother (done ++ cacheIds steps)) : s.EachFetchesOnce steps := by
  induction steps generalizing s done with
  | nil => trivial
  | cons step steps ih =>
      cases step with
      | clear cache => exact ih ⟨pagesOf.looked, pagesOf.before⟩ apart
      | getEntry lookup =>
          have ids : done ++ cacheIds (.getEntry lookup :: steps) = (done ++ [lookup.cache]) ++ cacheIds steps := by
            rw [List.append_assoc]
            rfl
          rw [ids] at apart
          constructor
          · intro _ _ _ _ read
            obtain last | earlier := pagesOf.before _ read
            · exact last
            · have back : [lookup.cache, s.bulkLoadedCacheId, lookup.cache].Sublist (done ++ [lookup.cache]) :=
                earlier.append (List.Sublist.refl [lookup.cache])
              exact (apart _ _ (back.trans (List.sublist_append_left _ _))).symm
          · refine ih ?_ apart
            obtain ⟨pages, own, -⟩ | ⟨pages, same, -⟩ := getEntry_pages (s := s) lookup
            · constructor
              · intro cache read
                rw [pages] at read
                cases read with
                | head => exact List.mem_append_right _ (List.mem_singleton_self _)
                | tail _ read => exact List.mem_append_left _ (pagesOf.looked cache read)
              · intro cache read
                rw [pages] at read
                rw [own]
                cases read with
                | head => exact .inl rfl
                | tail _ read =>
                    right
                    exact (List.singleton_sublist.mpr (pagesOf.looked cache read)).append (List.Sublist.refl [lookup.cache])
            · constructor
              · intro cache read
                rw [pages] at read
                exact List.mem_append_left _ (pagesOf.looked cache read)
              · intro cache read
                rw [pages] at read
                rw [same]
                exact (pagesOf.before cache read).imp_right fun earlier => earlier.trans (List.sublist_append_left _ _)

/-- A set no lookup was made of yet, whatever entries it has. -/
structure Fresh (s : LookupState) : Prop where
  directLookups : s.directLookups = 0
  bulkLoadedCacheId : s.bulkLoadedCacheId = 0
  pages : s.pages = []

/-- The first lookup of a set fetches no page. -/
theorem eachFetchesOnce_of_fresh {steps : List (LookupStep database)} (fresh : s.Fresh)
    (apart : OneAfterAnother (cacheIds steps).tail) : s.EachFetchesOnce steps := by
  induction steps generalizing s with
  | nil => trivial
  | cons step steps ih =>
      cases step with
      | clear cache => exact ih ⟨fresh.directLookups, fresh.bulkLoadedCacheId, fresh.pages⟩ apart
      | getEntry lookup =>
          constructor
          · intro _ _ direct
            rw [fresh.directLookups] at direct
            exact absurd direct (Nat.lt_irrefl 0)
          · have unread : (s.getEntry true lookup).1.pages = [] := by
              obtain ⟨-, -, loads, -⟩ | ⟨pages, -, -⟩ := getEntry_pages (s := s) lookup
              · have direct := (bulkLoads_iff.mp loads).2.2.2
                rw [fresh.directLookups] at direct
                exact absurd direct (Nat.lt_irrefl 0)
              · exact pages.trans fresh.pages
            have pagesOf : PagesOf [] (s.getEntry true lookup).1 := ⟨by simp [unread], by simp [unread]⟩
            exact eachFetchesOnce_of_oneAfterAnother pagesOf apart

/-! ### Caches that take turns -/

/-- The caches a page is read for when every change of the cache reads one, the last one first. -/
def changes : ℕ → List ℕ → List ℕ
  | _, [] => []
  | last, id :: ids => if id = last then changes last ids else changes id ids ++ [id]

theorem mem_changes {id last : ℕ} {ids : List ℕ} (member : id ∈ ids) (differs : id ≠ last) : id ∈ changes last ids := by
  induction ids generalizing last with
  | nil => cases member
  | cons head ids ih =>
      rw [changes]
      split_ifs with same
      · cases member with
        | head => exact absurd same differs
        | tail _ member => exact ih member differs
      · by_cases here : id = head
        · simp [here]
        · exact List.mem_append_left _ (ih ((List.mem_cons.mp member).resolve_left here) here)

/-- A cache another one was used before is one a page is read for. -/
theorem mem_changes_of_sublist {id other last : ℕ} {ids : List ℕ} (back : [other, id].Sublist ids) (differs : other ≠ id) :
    id ∈ changes last ids := by
  induction ids generalizing last with
  | nil => cases back
  | cons head ids ih =>
      rw [changes]
      split_ifs with same
      · cases back with
        | cons _ back => exact ih back
        | cons_cons _ back => exact mem_changes (List.singleton_sublist.mp back) fun equal => differs (same.trans equal.symm)
      · apply List.mem_append_left
        cases back with
        | cons _ back => exact ih back
        | cons_cons _ back => exact mem_changes (List.singleton_sublist.mp back) (Ne.symm differs)

/-- A cache that comes back has a second page read for it. -/
theorem not_nodup_changes {id other last : ℕ} {ids : List ℕ} (back : [id, other, id].Sublist ids) (differs : other ≠ id) :
    ¬(changes last ids ++ [last]).Nodup := by
  induction ids generalizing last with
  | nil => cases back
  | cons head ids ih =>
      rw [changes]
      split_ifs with same
      · cases back with
        | cons _ back => exact ih back
        | cons_cons _ back =>
            subst same
            have again := @mem_changes_of_sublist _ _ id _ back differs
            exact fun nodup => (List.nodup_append.mp nodup).2.2 id again id (List.mem_singleton_self id) rfl
      · intro nodup
        have inner := (List.nodup_append.mp nodup).1
        cases back with
        | cons _ back => exact ih back inner
        | cons_cons _ back =>
            have again := @mem_changes_of_sublist _ _ id _ back differs
            exact (List.nodup_append.mp inner).2.2 id again id (List.mem_singleton_self id) rfl

theorem changes_subset {id last : ℕ} {ids : List ℕ} (member : id ∈ changes last ids) : id ∈ ids := by
  induction ids generalizing last with
  | nil => cases member
  | cons head ids ih =>
      rw [changes] at member
      split_ifs at member
      · exact List.mem_cons_of_mem _ (ih member)
      · cases List.mem_append.mp member with
        | inl inner => exact List.mem_cons_of_mem _ (ih inner)
        | inr here => exact List.mem_singleton.mp here ▸ List.mem_cons_self

theorem empty_named (key : Text) (table : GlueTableInfo)
    (found : (∅ : AList fun _ : Text => GlueTableInfo).lookup key = some table) : lower table.name = key := by
  cases found

/-- A database without tables. -/
def emptyDatabase : GlueDatabase where
  named := empty_named

theorem emptyPage_held (table : GlueTableInfo) (member : table ∈ ([] : List GlueTableInfo)) :
    emptyDatabase.getTable table.name = some table := by
  cases member

/-- A lookup of a table Glue does not hold, whose page is read if it asks for one. -/
def absentLookup (cache : ℕ) : BatchLookup emptyDatabase := ⟨cache, "absent", .page [] emptyPage_held⟩

/-- Lookups of an absent table in these caches. -/
def absentLookups (ids : List ℕ) : List (LookupStep emptyDatabase) := ids.map fun id => .getEntry (absentLookup id)

/-- A set that was asked for the absent table before. -/
structure Asked (s : LookupState) : Prop where
  unknown : s.set.find "absent" = none
  allowed : s.batchForbidden = false
  direct : 0 < s.directLookups
  uncached : ∀ cache, (s.caches cache).lookup (lower "absent") = none

theorem getEntry_absentLookup (unknown : s.set.find "absent" = none)
    (uncached : ∀ cache, (s.caches cache).lookup (lower "absent") = none) (id : ℕ) :
    (s.getEntry true (absentLookup id)).1 = { s.prepared true (absentLookup id) with
      set := s.set.erase "absent", objects := s.objects + 1,
      directLookups := (s.prepared true (absentLookup id)).directLookups + 1 } := by
  have prepares := prepared_prepares (s := s) true (absentLookup id)
  have caches : (s.prepared true (absentLookup id)).caches = s.caches := by
    unfold prepared
    split_ifs <;> rfl
  have kept : ((s.prepared true (absentLookup id)).caches id).lookup (lower "absent") = none := by
    rw [caches]
    exact uncached id
  have name : s.glueName (absentLookup id).name = "absent" := by
    rw [glueName]
    exact congrArg (fun found => match found with | some existing => existing.info.name | none => "absent".toList) unknown
  have load : (s.prepared true (absentLookup id)).cacheTable id "absent" (emptyDatabase.getTable "absent") =
      (s.prepared true (absentLookup id), none) := by
    have absent : emptyDatabase.getTable "absent" = none := AList.lookup_empty _
    rw [absent, cacheTable, kept]
  have cached : (s.set.find (absentLookup id).name).isSome = false := congrArg Option.isSome unknown
  have cache : (absentLookup id).cache = id := rfl
  dsimp only [getEntry]
  rw [name, cache, load, cached, kept, prepares.set, prepares.objects]
  rfl

theorem absentLookup_asked (unknown : s.set.find "absent" = none) (allowed : s.batchForbidden = false)
    (uncached : ∀ cache, (s.caches cache).lookup (lower "absent") = none) (id : ℕ) :
    (s.getEntry true (absentLookup id)).1.Asked := by
  rw [getEntry_absentLookup unknown uncached]
  have erased : (s.set.erase "absent").find "absent" = none := AList.lookup_erase _ _
  refine ⟨erased, ?_, Nat.succ_pos _, ?_⟩
  · unfold prepared
    split_ifs <;> exact allowed
  · intro cache
    unfold prepared
    split_ifs <;> exact uncached cache

/-- Each change of the cache reads a page. -/
theorem absentLookups_pages (asked : s.Asked) (ids : List ℕ) :
    (s.run true (absentLookups ids)).1.pages = changes s.bulkLoadedCacheId ids ++ s.pages := by
  induction ids generalizing s with
  | nil => rfl
  | cons id ids ih =>
      have rest := ih (absentLookup_asked asked.unknown asked.allowed asked.uncached id)
      have step : (s.run true (absentLookups (id :: ids))).1 = ((s.getEntry true (absentLookup id)).1.run true (absentLookups ids)).1 :=
        rfl
      rw [step, rest, changes]
      obtain ⟨pages, own, loads, -⟩ | ⟨pages, same, idle⟩ := getEntry_pages (s := s) (absentLookup id)
      · have another : id ≠ s.bulkLoadedCacheId := (bulkLoads_iff.mp loads).2.2.1
        rw [pages, own, if_neg another, List.append_assoc]
        rfl
      · have own : id = s.bulkLoadedCacheId := by
          by_contra another
          exact idle ⟨bulkLoads_iff.mpr ⟨asked.unknown, asked.allowed, another, asked.direct⟩, rfl⟩
        rw [pages, same, if_pos own]

/-- Transactions that take turns after the first lookup can make a set read a second
page for a cache. -/
theorem absentLookups_not_nodup {ids : List ℕ} (positive : ∀ id ∈ ids, 0 < id) (turns : ¬OneAfterAnother ids.tail) :
    ¬((({} : LookupState).run true (absentLookups ids)).1.pages.Nodup) := by
  cases ids with
  | nil => exact absurd (fun _ _ back => by cases back) turns
  | cons id ids =>
      have asked := @absentLookup_asked {} rfl rfl (fun _ => rfl) id
      have unread : (({} : LookupState).getEntry true (absentLookup id)).1.pages = [] ∧
          (({} : LookupState).getEntry true (absentLookup id)).1.bulkLoadedCacheId = 0 := by
        obtain ⟨-, -, loads, -⟩ | ⟨pages, same, -⟩ := getEntry_pages (s := {}) (absentLookup id)
        · exact absurd (bulkLoads_iff.mp loads).2.2.2 (Nat.lt_irrefl 0)
        · exact ⟨pages, same⟩
      have step : (({} : LookupState).run true (absentLookups (id :: ids))).1 =
          ((({} : LookupState).getEntry true (absentLookup id)).1.run true (absentLookups ids)).1 := rfl
      rw [step, absentLookups_pages asked, unread.1, unread.2, List.append_nil]
      intro nodup
      apply turns
      intro one other back
      by_contra differs
      apply @not_nodup_changes _ _ 0 _ back differs
      rw [List.nodup_append]
      refine ⟨nodup, List.nodup_singleton 0, ?_⟩
      intro read member unread equal same
      rw [List.mem_singleton.mp equal] at same
      have above := positive read (List.mem_cons_of_mem _ (changes_subset member))
      omega

/-- Batched lookups answer as unbatched ones, and read a page at most once for each
cache, in all lookups in caches of these ids just where after the first of them no cache
is used again after another one. -/
theorem batchedLookups_agree_iff {ids : List ℕ} (positive : ∀ id ∈ ids, 0 < id) :
    (∀ (database : GlueDatabase) (s : LookupState) (steps : List (LookupStep database)), s.Fresh → cacheIds steps = ids →
        (s.run true steps).2 = (s.run false steps).2 ∧ (s.run true steps).1.pages.Nodup) ↔
      OneAfterAnother ids.tail := by
  constructor
  · intro once
    by_contra turns
    refine absentLookups_not_nodup positive turns (once emptyDatabase {} (absentLookups ids) ⟨rfl, rfl, rfl⟩ ?_).2
    clear positive once turns
    induction ids with
    | nil => rfl
    | cons id ids ih => exact congrArg (id :: ·) ih
  · intro apart database s steps fresh same
    have agrees : Agrees database s s := ⟨rfl, rfl, fun _ _ => rfl⟩
    refine ⟨run_agrees agrees true false steps, (run_pages_nodup s steps).mpr ⟨?_, ?_⟩⟩
    · rw [fresh.pages]
      exact List.nodup_nil
    · exact eachFetchesOnce_of_fresh fresh (same ▸ apart)

/-- Two transactions one after the other. -/
theorem batchedLookups_agree_inTurn :
    (({} : LookupState).run true (absentLookups [1, 1, 2, 2])).2 = (({} : LookupState).run false (absentLookups [1, 1, 2, 2])).2 ∧
      (({} : LookupState).run true (absentLookups [1, 1, 2, 2])).1.pages.Nodup :=
  (@batchedLookups_agree_iff [1, 1, 2, 2] (by decide)).mpr (oneAfterAnother_of_sorted (by decide))
    emptyDatabase {} (absentLookups [1, 1, 2, 2]) ⟨rfl, rfl, rfl⟩ rfl

/-- Two transactions by turns, on a table Glue does not hold. -/
theorem batchedLookups_byTurns :
    ¬((({} : LookupState).run true (absentLookups [1, 1, 2, 1])).2 = (({} : LookupState).run false (absentLookups [1, 1, 2, 1])).2 ∧
      (({} : LookupState).run true (absentLookups [1, 1, 2, 1])).1.pages.Nodup) := by
  intro both
  exact absurd both.2 (by decide)

end LookupState

end DuckGlue
