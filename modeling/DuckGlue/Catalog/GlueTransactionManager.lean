import DuckGlue.Catalog.GlueTableSet
import DuckGlue.Lib.Runs
import Mathlib.Order.Lattice.Nat
import Mathlib.Order.MinMax
import Mathlib.Order.WithBot

/-! # Transactions and retired entries

An entry that leaves its set is kept by the transaction manager until no transaction
runs that started before: every transaction has a sequence number, and an entry is
stamped with the next one when it is retired. An entry given to a transaction outlives
it, and is freed at the first end of a transaction that leaves none started before.
-/

namespace DuckGlue

open StringUtil GlueTableSet

variable {Transaction Schema : Type} [DecidableEq Transaction] [DecidableEq Schema]

/-- The transactions started before the entry was retired have a lower sequence number. -/
structure RetiredEntry where
  retiredAt : ℕ
  entry : CatalogEntry

structure GlueTransactionManager (Transaction : Type) where
  /-- The sequence number of every running transaction. -/
  transactionSequence : AList (fun _ : Transaction => ℕ) := ∅
  nextSequence : ℕ := 0
  retiredEntries : List RetiredEntry := []

namespace GlueTransactionManager

variable (manager : GlueTransactionManager Transaction)

def startTransaction (transaction : Transaction) : GlueTransactionManager Transaction :=
  { manager with
    transactionSequence := manager.transactionSequence.insert transaction manager.nextSequence
    nextSequence := manager.nextSequence + 1 }

/-- The least of the sequence numbers, or the greatest number there is. -/
def oldestRunning : WithTop ℕ :=
  manager.transactionSequence.entries.foldl (fun oldest running => min oldest (WithTop.some running.2)) ⊤

def freeRetiredEntries : GlueTransactionManager Transaction :=
  { manager with
    retiredEntries := manager.retiredEntries.filter fun retired => !decide (WithTop.some retired.retiredAt ≤ manager.oldestRunning) }

/-- What `CommitTransaction` and `RollbackTransaction` do under the lock. -/
def endTransaction (transaction : Transaction) : GlueTransactionManager Transaction :=
  { manager with transactionSequence := manager.transactionSequence.erase transaction }.freeRetiredEntries

def retireEntry (entry : CatalogEntry) : GlueTransactionManager Transaction :=
  { manager with retiredEntries := manager.retiredEntries ++ [⟨manager.nextSequence, entry⟩] }

def isRunning (transaction : Transaction) : Bool := (manager.transactionSequence.lookup transaction).isSome

variable {manager}

theorem le_oldestRunning {bound : ℕ} : WithTop.some bound ≤ manager.oldestRunning ↔
    ∀ transaction n, manager.transactionSequence.lookup transaction = some n → bound ≤ n := by
  have folded : ∀ (running : List (Sigma fun _ : Transaction => ℕ)) (oldest : WithTop ℕ),
      WithTop.some bound ≤ running.foldl (fun oldest one => min oldest (WithTop.some one.2)) oldest ↔
        WithTop.some bound ≤ oldest ∧ ∀ one ∈ running, bound ≤ one.2 := by
    intro running
    induction running with
    | nil => simp
    | cons one running ih =>
        intro oldest
        rw [List.foldl_cons, ih, le_min_iff, List.forall_mem_cons, WithTop.coe_le_coe, and_assoc]
  rw [oldestRunning, folded]
  constructor
  · rintro ⟨-, all⟩ transaction n found
    exact all ⟨transaction, n⟩ (AList.mem_lookup_iff.mp found)
  · intro all
    exact ⟨le_top, fun one member => all one.1 one.2 (AList.mem_lookup_iff.mpr member)⟩

theorem lookup_endTransaction {transaction other : Transaction} {n : ℕ} :
    (manager.endTransaction transaction).transactionSequence.lookup other = some n ↔
      other ≠ transaction ∧ manager.transactionSequence.lookup other = some n := by
  change (manager.transactionSequence.erase transaction).lookup other = some n ↔ _
  by_cases same : other = transaction
  · subst same
    simp [AList.lookup_erase]
  · simp [same, AList.lookup_erase_ne]

/-- An end keeps the entries some transaction still running was started before. -/
theorem mem_retired_endTransaction {transaction : Transaction} {retired : RetiredEntry} :
    retired ∈ (manager.endTransaction transaction).retiredEntries ↔ retired ∈ manager.retiredEntries ∧
      ∃ other n, other ≠ transaction ∧ manager.transactionSequence.lookup other = some n ∧ n < retired.retiredAt := by
  change retired ∈ List.filter _ _ ↔ _
  rw [List.mem_filter, Bool.not_eq_true', decide_eq_false_iff_not, le_oldestRunning]
  simp only [not_forall, not_le]
  constructor
  · rintro ⟨member, other, n, found, before⟩
    obtain ⟨differs, running⟩ := (@lookup_endTransaction _ _ manager transaction other n).mp found
    exact ⟨member, other, n, differs, running, before⟩
  · rintro ⟨member, other, n, differs, running, before⟩
    exact ⟨member, other, n, lookup_endTransaction.mpr ⟨differs, running⟩, before⟩

theorem lookup_startTransaction {transaction other : Transaction} {n : ℕ} :
    (manager.startTransaction transaction).transactionSequence.lookup other = some n ↔
      other = transaction ∧ n = manager.nextSequence ∨
        other ≠ transaction ∧ manager.transactionSequence.lookup other = some n := by
  change (manager.transactionSequence.insert transaction manager.nextSequence).lookup other = some n ↔ _
  by_cases same : other = transaction
  · subst same
    simp [AList.lookup_insert, eq_comm]
  · simp [same, AList.lookup_insert_ne]

theorem isRunning_iff {transaction : Transaction} :
    manager.isRunning transaction = true ↔ ∃ n, manager.transactionSequence.lookup transaction = some n :=
  Option.isSome_iff_exists

end GlueTransactionManager

/-- The transactions and the sets of a catalog. -/
structure CatalogState (Transaction Schema : Type) where
  manager : GlueTransactionManager Transaction := {}
  tables : Schema → GlueTableSet := fun _ => {}
  /-- The entries made so far are those of a lower number. -/
  objects : ℕ := 0
  /-- The entries given to transactions that run; no code keeps this. -/
  held : List (Transaction × CatalogEntry) := []

inductive CatalogAction (Transaction Schema : Type) where
  | startTransaction (transaction : Transaction)
  | commitTransaction (transaction : Transaction)
  | rollbackTransaction (transaction : Transaction)
  /-- A lookup of a transaction that runs already, answered with what Glue holds. -/
  | getEntry (transaction : Transaction) (schema : Schema) (name : Text) (table : Option GlueTableInfo)
  | createEntry (transaction : Transaction) (schema : Schema) (table : GlueTableInfo)
  | removeEntry (schema : Schema) (name : Text)
  /-- `LoadEntries` is one of these for each table of the list. -/
  | loadTable (schema : Schema) (table : GlueTableInfo)
  | scan (transaction : Transaction) (schema : Schema)

namespace CatalogState

variable (s : CatalogState Transaction Schema)

/-- A critical section on the set of a schema, and what it gives to a transaction. -/
def change (schema : Schema) (change : SetChange) (given : List (Transaction × CatalogEntry)) :
    CatalogState Transaction Schema where
  manager := change.retired.elim s.manager s.manager.retireEntry
  tables := Function.update s.tables schema change.set
  objects := s.objects + 1
  held := s.held ++ given

/-- The transaction ends: what it was given is no longer its own. -/
def finish (transaction : Transaction) : CatalogState Transaction Schema :=
  { s with
    manager := s.manager.endTransaction transaction
    held := s.held.filter (·.1 ≠ transaction) }

/-- What was given to a transaction by a lookup. -/
def given (transaction : Transaction) : Except Exception (Option CatalogEntry) → List (Transaction × CatalogEntry)
  | .ok (some entry) => [(transaction, entry)]
  | _ => []

/-- One step of any thread; none where a transaction is not running, or is already. -/
def step : CatalogAction Transaction Schema → Option (CatalogState Transaction Schema)
  | .startTransaction transaction =>
      if s.manager.isRunning transaction then none
      else some { s with manager := s.manager.startTransaction transaction }
  | .commitTransaction transaction => if s.manager.isRunning transaction then some (s.finish transaction) else none
  | .rollbackTransaction transaction => if s.manager.isRunning transaction then some (s.finish transaction) else none
  | .getEntry transaction schema name table =>
      if s.manager.isRunning transaction then
        let lookup := (s.tables schema).getEntry s.objects name table
        some (s.change schema lookup.1 (given transaction lookup.2))
      else none
  | .createEntry transaction schema table =>
      if s.manager.isRunning transaction then
        match buildEntry s.objects table with
        | .ok entry => some (s.change schema ((s.tables schema).createEntry entry) [(transaction, entry)])
        | .error _ => some s
      else none
  | .removeEntry schema name => some (s.change schema ((s.tables schema).removeEntry name) [])
  | .loadTable schema table => some (s.change schema ((s.tables schema).loadTable s.objects table) [])
  | .scan transaction schema =>
      if s.manager.isRunning transaction then
        some { s with held := s.held ++ (s.tables schema).scanned.map (transaction, ·) }
      else none

def Step (s : CatalogState Transaction Schema) (action : CatalogAction Transaction Schema)
    (s' : CatalogState Transaction Schema) : Prop :=
  s.step action = some s'

/-- The entry is in a set. -/
def Listed (entry : CatalogEntry) : Prop := ∃ schema name, (s.tables schema).entries.lookup name = some entry

/-- The entry was not destroyed: a set owns it, or the manager does. -/
def Alive (entry : CatalogEntry) : Prop :=
  s.Listed entry ∨ ∃ retired ∈ s.manager.retiredEntries, retired.entry = entry

def Running (transaction : Transaction) : Prop := s.manager.isRunning transaction = true

/-- What a step does. -/
inductive Effect : CatalogAction Transaction Schema → CatalogState Transaction Schema → Prop where
  | started {transaction : Transaction} (idle : ¬ s.Running transaction) :
      Effect (.startTransaction transaction) { s with manager := s.manager.startTransaction transaction }
  | finished {action : CatalogAction Transaction Schema} {transaction : Transaction}
      (ends : action = .commitTransaction transaction ∨ action = .rollbackTransaction transaction)
      (running : s.Running transaction) : Effect action (s.finish transaction)
  | changed {action : CatalogAction Transaction Schema} {schema : Schema} {name : Text} {change : SetChange}
      {given : List (Transaction × CatalogEntry)} (touches : (s.tables schema).Touches s.objects name change)
      (readers : ∀ one ∈ given, s.Running one.1 ∧ change.set.entries.lookup name = some one.2) :
      Effect action (s.change schema change given)
  | gave {action : CatalogAction Transaction Schema} {given : List (Transaction × CatalogEntry)}
      (readers : ∀ one ∈ given, s.Running one.1 ∧ s.Listed one.2) : Effect action { s with held := s.held ++ given }

variable {s} {s' : CatalogState Transaction Schema} {action : CatalogAction Transaction Schema}

omit [DecidableEq Transaction] in
theorem mem_given {transaction : Transaction} {result : Except Exception (Option CatalogEntry)}
    {one : Transaction × CatalogEntry} (member : one ∈ given transaction result) :
    one.1 = transaction ∧ result = .ok (some one.2) := by
  unfold given at member
  split at member
  · obtain rfl := List.mem_singleton.mp member
    exact ⟨rfl, rfl⟩
  · cases member

theorem effect_of_step (stepped : s.Step action s') : s.Effect action s' := by
  unfold Step step at stepped
  cases action with
  | startTransaction transaction =>
      dsimp only at stepped
      split_ifs at stepped with running
      cases stepped
      exact .started running
  | commitTransaction transaction =>
      dsimp only at stepped
      split_ifs at stepped with running
      cases stepped
      exact .finished (.inl rfl) running
  | rollbackTransaction transaction =>
      dsimp only at stepped
      split_ifs at stepped with running
      cases stepped
      exact .finished (.inr rfl) running
  | getEntry transaction schema name table =>
      dsimp only at stepped
      split_ifs at stepped with running
      cases stepped
      obtain ⟨touched, touches, found⟩ := @getEntry_touches (s.tables schema) s.objects name table
      apply Effect.changed touches
      intro one member
      obtain ⟨rfl, result⟩ := mem_given member
      exact ⟨running, found one.2 result⟩
  | createEntry transaction schema table =>
      dsimp only at stepped
      split_ifs at stepped with running
      cases built : buildEntry s.objects table with
      | error =>
          rw [built] at stepped
          cases stepped
          simpa using @Effect.gave _ _ _ _ s (.createEntry transaction schema table) [] (by simp)
      | ok entry =>
          rw [built] at stepped
          cases stepped
          apply Effect.changed (emplace_touches (buildEntry_object built))
          intro one member
          obtain rfl := List.mem_singleton.mp member
          exact ⟨running, AList.lookup_insert _⟩
  | removeEntry schema name =>
      cases stepped
      exact .changed retireEntry_touches (by simp)
  | loadTable schema table =>
      cases stepped
      exact .changed (loadTable_touches table) (by simp)
  | scan transaction schema =>
      dsimp only at stepped
      split_ifs at stepped with running
      cases stepped
      apply Effect.gave
      intro one member
      obtain ⟨entry, here, rfl⟩ := List.mem_map.mp member
      exact ⟨running, schema, mem_scanned.mp here⟩

variable (s)

/-- What holds of the sets, the retired entries and the running transactions at all
times. -/
structure Consistent : Prop where
  sequenced : ∀ transaction n, s.manager.transactionSequence.lookup transaction = some n → n < s.manager.nextSequence
  stamped : ∀ retired ∈ s.manager.retiredEntries, retired.retiredAt ≤ s.manager.nextSequence
  listedMade : ∀ entry, s.Listed entry → entry.object < s.objects
  retiredMade : ∀ retired ∈ s.manager.retiredEntries, retired.entry.object < s.objects
  /-- A set owns an entry under one name. -/
  owned : ∀ schema name schema' name' entry entry', (s.tables schema).entries.lookup name = some entry →
    (s.tables schema').entries.lookup name' = some entry' → entry.object = entry'.object →
    schema = schema' ∧ name = name'
  moved : ∀ retired ∈ s.manager.retiredEntries, ∀ entry, s.Listed entry → entry.object ≠ retired.entry.object
  /-- What a transaction was given is in a set, or was retired after it started. -/
  held : ∀ one ∈ s.held, ∃ n, s.manager.transactionSequence.lookup one.1 = some n ∧
    (s.Listed one.2 ∨ ∃ retired ∈ s.manager.retiredEntries, retired.entry = one.2 ∧ n < retired.retiredAt)

variable {s}

omit [DecidableEq Schema] in
theorem consistent_init : ({} : CatalogState Transaction Schema).Consistent where
  sequenced := by simp
  stamped := by simp
  listedMade := by rintro entry ⟨schema, name, found⟩; simp at found
  retiredMade := by simp
  owned := by intro schema name schema' name' entry entry' found; simp at found
  moved := by simp
  held := by simp

section Changed

variable {schema : Schema} {name : Text} {change : SetChange} {given : List (Transaction × CatalogEntry)}
  (touches : (s.tables schema).Touches s.objects name change)
include touches

omit [DecidableEq Transaction] in
theorem lookup_of_change {schema' : Schema} {name' : Text} {entry : CatalogEntry}
    (found : ((s.change schema change given).tables schema').entries.lookup name' = some entry) :
    (s.tables schema').entries.lookup name' = some entry ∨
      schema' = schema ∧ name' = name ∧ entry.object = s.objects := by
  simp only [CatalogState.change] at found
  by_cases here : schema' = schema
  · subst here
    rw [Function.update_self] at found
    by_cases same : name' = name
    · subst same
      cases touches.here with
      | inl kept => exact .inl (kept.1 ▸ found)
      | inr replaced => exact .inr ⟨rfl, rfl, replaced.2 entry found⟩
    · exact .inl (touches.others name' same ▸ found)
  · rw [Function.update_of_ne here] at found
    exact .inl found

omit [DecidableEq Transaction] in
/-- An entry stays in its set or is retired. -/
theorem lookup_change {schema' : Schema} {name' : Text} {entry : CatalogEntry}
    (found : (s.tables schema').entries.lookup name' = some entry) :
    ((s.change schema change given).tables schema').entries.lookup name' = some entry ∨
      schema' = schema ∧ name' = name ∧ change.retired = some entry := by
  simp only [CatalogState.change]
  by_cases here : schema' = schema
  · subst here
    rw [Function.update_self]
    by_cases same : name' = name
    · subst same
      cases touches.here with
      | inl kept => exact .inl (kept.1.trans found)
      | inr replaced => exact .inr ⟨rfl, rfl, replaced.1.trans found⟩
    · exact .inl ((touches.others name' same).trans found)
  · rw [Function.update_of_ne here]
    exact .inl found

omit touches [DecidableEq Transaction] in
theorem mem_retired_change {retired : RetiredEntry} :
    retired ∈ (s.change schema change given).manager.retiredEntries ↔ retired ∈ s.manager.retiredEntries ∨
      change.retired = some retired.entry ∧ retired.retiredAt = s.manager.nextSequence := by
  obtain ⟨stamp, entry⟩ := retired
  cases change_retired : change.retired with
  | none => simp [CatalogState.change, change_retired]
  | some other =>
      simp only [CatalogState.change, change_retired, Option.elim_some, GlueTransactionManager.retireEntry,
        List.mem_append, List.mem_singleton, RetiredEntry.mk.injEq, Option.some.injEq]
      constructor
      · rintro (known | ⟨rfl, rfl⟩)
        · exact .inl known
        · exact .inr ⟨rfl, rfl⟩
      · rintro (known | ⟨rfl, rfl⟩)
        · exact .inl known
        · exact .inr ⟨rfl, rfl⟩

omit touches [DecidableEq Transaction] in
@[simp] theorem change_sequence : (s.change schema change given).manager.transactionSequence =
    s.manager.transactionSequence := by
  cases retired : change.retired <;> simp [CatalogState.change, retired, GlueTransactionManager.retireEntry]

omit touches [DecidableEq Transaction] in
@[simp] theorem change_nextSequence : (s.change schema change given).manager.nextSequence =
    s.manager.nextSequence := by
  cases retired : change.retired <;> simp [CatalogState.change, retired, GlueTransactionManager.retireEntry]

omit [DecidableEq Transaction] [DecidableEq Schema] in
/-- An entry that leaves its set was in it. -/
theorem listed_of_retired {entry : CatalogEntry} (retired : change.retired = some entry) :
    (s.tables schema).entries.lookup name = some entry ∧
      ∀ other, change.set.entries.lookup name = some other → other.object = s.objects := by
  cases touches.here with
  | inl kept => rw [kept.2] at retired; cases retired
  | inr replaced => exact ⟨replaced.1.symm.trans retired, replaced.2⟩

/-- An entry that is retired is in no set any more. -/
theorem not_listed_of_retired (consistent : s.Consistent) {entry other : CatalogEntry}
    (retired : change.retired = some entry) (listed : (s.change schema change given).Listed other) :
    other.object ≠ entry.object := by
  obtain ⟨old, new⟩ := listed_of_retired touches retired
  obtain ⟨schema', name', found⟩ := listed
  intro same
  cases lookup_of_change touches found with
  | inl known =>
      obtain ⟨rfl, rfl⟩ := consistent.owned _ _ _ _ _ _ known old same
      simp only [CatalogState.change, Function.update_self] at found
      have made := consistent.listedMade _ ⟨_, _, known⟩
      have fresh := new other found
      omega
  | inr fresh =>
      have made := consistent.listedMade _ ⟨_, _, old⟩
      omega

theorem consistent_change (consistent : s.Consistent)
    (readers : ∀ one ∈ given, s.Running one.1 ∧ change.set.entries.lookup name = some one.2) :
    (s.change schema change given).Consistent where
  sequenced := by simpa using consistent.sequenced
  stamped := by
    intro retired member
    rw [change_nextSequence]
    cases mem_retired_change.mp member with
    | inl known => exact consistent.stamped retired known
    | inr new => exact new.2.le
  listedMade := by
    rintro entry ⟨schema', name', found⟩
    change entry.object < s.objects + 1
    cases lookup_of_change touches found with
    | inl known =>
        have made := consistent.listedMade _ ⟨_, _, known⟩
        omega
    | inr new => omega
  retiredMade := by
    intro retired member
    change retired.entry.object < s.objects + 1
    cases mem_retired_change.mp member with
    | inl known =>
        have made := consistent.retiredMade retired known
        omega
    | inr new =>
        have made := consistent.listedMade _ ⟨_, _, (listed_of_retired touches new.1).1⟩
        omega
  owned := by
    intro schema₁ name₁ schema₂ name₂ entry₁ entry₂ found₁ found₂ same
    cases lookup_of_change touches found₁ with
    | inl known₁ =>
        cases lookup_of_change touches found₂ with
        | inl known₂ => exact consistent.owned _ _ _ _ _ _ known₁ known₂ same
        | inr new₂ =>
            have made := consistent.listedMade _ ⟨_, _, known₁⟩
            omega
    | inr new₁ =>
        cases lookup_of_change touches found₂ with
        | inl known₂ =>
            have made := consistent.listedMade _ ⟨_, _, known₂⟩
            omega
        | inr new₂ => exact ⟨new₁.1.trans new₂.1.symm, new₁.2.1.trans new₂.2.1.symm⟩
  moved := by
    intro retired member entry listed
    cases mem_retired_change.mp member with
    | inl known =>
        obtain ⟨schema', name', found⟩ := listed
        cases lookup_of_change touches found with
        | inl old => exact consistent.moved retired known entry ⟨_, _, old⟩
        | inr new =>
            have made := consistent.retiredMade retired known
            omega
    | inr new => exact not_listed_of_retired touches consistent new.1 listed
  held := by
    intro one member
    rw [change_sequence]
    cases List.mem_append.mp member with
    | inl old =>
        obtain ⟨n, running, known⟩ := consistent.held one old
        refine ⟨n, running, ?_⟩
        cases known with
        | inl listed =>
            obtain ⟨schema', name', found⟩ := listed
            cases @lookup_change _ _ _ s _ _ _ given touches _ _ _ found with
            | inl kept => exact .inl ⟨_, _, kept⟩
            | inr gone =>
                have before := consistent.sequenced one.1 n running
                exact .inr ⟨⟨s.manager.nextSequence, one.2⟩, mem_retired_change.mpr (.inr ⟨gone.2.2, rfl⟩), rfl, before⟩
        | inr retired =>
            obtain ⟨retired, here, same, before⟩ := retired
            exact .inr ⟨retired, mem_retired_change.mpr (.inl here), same, before⟩
    | inr new =>
        obtain ⟨running, found⟩ := readers one new
        obtain ⟨n, sequence⟩ := GlueTransactionManager.isRunning_iff.mp running
        refine ⟨n, sequence, .inl ⟨schema, name, ?_⟩⟩
        simp only [CatalogState.change, Function.update_self]
        exact found

end Changed

omit [DecidableEq Schema] in
theorem consistent_started {transaction : Transaction} (consistent : s.Consistent) (idle : ¬ s.Running transaction) :
    ({ s with manager := s.manager.startTransaction transaction } : CatalogState Transaction Schema).Consistent where
  sequenced := by
    intro other n found
    change n < s.manager.nextSequence + 1
    cases GlueTransactionManager.lookup_startTransaction.mp found with
    | inl new => omega
    | inr old =>
        have before := consistent.sequenced other n old.2
        omega
  stamped := fun retired member => Nat.le_succ_of_le (consistent.stamped retired member)
  listedMade := consistent.listedMade
  retiredMade := consistent.retiredMade
  owned := consistent.owned
  moved := consistent.moved
  held := by
    intro one member
    obtain ⟨n, running, known⟩ := consistent.held one member
    refine ⟨n, GlueTransactionManager.lookup_startTransaction.mpr (.inr ⟨?_, running⟩), known⟩
    intro same
    exact idle (GlueTransactionManager.isRunning_iff.mpr ⟨n, same ▸ running⟩)

omit [DecidableEq Schema] in
theorem consistent_finish {transaction : Transaction} (consistent : s.Consistent) :
    (s.finish transaction).Consistent where
  sequenced := fun other n found =>
    consistent.sequenced other n (GlueTransactionManager.lookup_endTransaction.mp found).2
  stamped := fun retired member =>
    consistent.stamped retired (GlueTransactionManager.mem_retired_endTransaction.mp member).1
  listedMade := consistent.listedMade
  retiredMade := fun retired member =>
    consistent.retiredMade retired (GlueTransactionManager.mem_retired_endTransaction.mp member).1
  owned := consistent.owned
  moved := fun retired member =>
    consistent.moved retired (GlueTransactionManager.mem_retired_endTransaction.mp member).1
  held := by
    intro one member
    obtain ⟨old, other⟩ := List.mem_filter.mp member
    have differs : one.1 ≠ transaction := by simpa using other
    obtain ⟨n, running, known⟩ := consistent.held one old
    refine ⟨n, GlueTransactionManager.lookup_endTransaction.mpr ⟨differs, running⟩, ?_⟩
    cases known with
    | inl listed => exact .inl listed
    | inr retired =>
        -- the reader itself is still running and was started before
        obtain ⟨retired, here, same, before⟩ := retired
        exact .inr ⟨retired, GlueTransactionManager.mem_retired_endTransaction.mpr
          ⟨here, one.1, n, differs, running, before⟩, same, before⟩

theorem consistent_step (stepped : s.Step action s') (consistent : s.Consistent) : s'.Consistent := by
  cases effect_of_step stepped with
  | started idle => exact consistent_started consistent idle
  | finished _ _ => exact consistent_finish consistent
  | changed touches readers => exact consistent_change touches consistent readers
  | gave readers =>
      refine { consistent with held := ?_ }
      intro one member
      cases List.mem_append.mp member with
      | inl old => exact consistent.held one old
      | inr new =>
          obtain ⟨running, listed⟩ := readers one new
          obtain ⟨n, sequence⟩ := GlueTransactionManager.isRunning_iff.mp running
          exact ⟨n, sequence, .inl listed⟩

/-- The entry was retired, and not after the stamp. -/
structure Gone (entry : CatalogEntry) (stamp : ℕ) (s : CatalogState Transaction Schema) : Prop where
  made : entry.object < s.objects
  unlisted : ∀ other, s.Listed other → other.object ≠ entry.object
  stamped : ∀ retired ∈ s.manager.retiredEntries, retired.entry = entry → retired.retiredAt ≤ stamp

section Retired

variable {entry : CatalogEntry}

/-- An entry that leaves its set is retired with the next sequence number. -/
theorem gone_of_step (consistent : s.Consistent) (listed : s.Listed entry) (stepped : s.Step action s')
    (unlisted : ¬ s'.Listed entry) : Gone entry s'.manager.nextSequence s' := by
  have after := consistent_step stepped consistent
  refine ⟨?_, ?_, fun retired member _ => after.stamped retired member⟩
  all_goals
    cases effect_of_step stepped with
    | started idle => exact absurd listed unlisted
    | finished ends running => exact absurd listed unlisted
    | gave readers => exact absurd listed unlisted
    | @changed _ schema name change given touches readers =>
        obtain ⟨schema', name', found⟩ := listed
        cases @lookup_change _ _ _ s _ _ _ given touches _ _ _ found with
        | inl kept => exact absurd ⟨_, _, kept⟩ unlisted
        | inr gone =>
            first
            | exact after.retiredMade ⟨_, entry⟩ (mem_retired_change.mpr (.inr ⟨gone.2.2, rfl⟩))
            | exact fun other => not_listed_of_retired touches consistent gone.2.2

theorem gone_step {stamp : ℕ} (stepped : s.Step action s') (gone : Gone entry stamp s) : Gone entry stamp s' := by
  cases effect_of_step stepped with
  | started _ => exact ⟨gone.made, gone.unlisted, gone.stamped⟩
  | finished _ _ =>
      exact ⟨gone.made, gone.unlisted, fun retired member =>
        gone.stamped retired (GlueTransactionManager.mem_retired_endTransaction.mp member).1⟩
  | gave _ => exact ⟨gone.made, gone.unlisted, gone.stamped⟩
  | changed touches readers =>
      refine ⟨Nat.lt_succ_of_lt gone.made, ?_, ?_⟩
      · rintro other ⟨schema', name', found⟩
        cases lookup_of_change touches found with
        | inl known => exact gone.unlisted other ⟨_, _, known⟩
        | inr new =>
            have made := gone.made
            omega
      · rintro retired member rfl
        cases mem_retired_change.mp member with
        | inl known => exact gone.stamped retired known rfl
        | inr new =>
            -- what is retired now was in a set
            exact absurd rfl (gone.unlisted _ ⟨_, _, (listed_of_retired touches new.1).1⟩)

end Retired

theorem nextSequence_le_step (stepped : s.Step action s') : s.manager.nextSequence ≤ s'.manager.nextSequence := by
  cases effect_of_step stepped with
  | started _ => exact Nat.le_succ _
  | finished _ _ => exact le_rfl
  | changed _ _ => exact change_nextSequence.ge
  | gave _ => exact le_rfl

/-- A transaction keeps its sequence number. -/
theorem sequence_of_step {transaction : Transaction} {n : ℕ} (stepped : s.Step action s')
    (running : s'.manager.transactionSequence.lookup transaction = some n) :
    s.manager.transactionSequence.lookup transaction = some n ∨
      action = .startTransaction transaction ∧ n = s.manager.nextSequence := by
  cases effect_of_step stepped with
  | started _ =>
      cases GlueTransactionManager.lookup_startTransaction.mp running with
      | inl new => exact .inr ⟨by rw [new.1], new.2⟩
      | inr old => exact .inl old.2
  | finished _ _ => exact .inl (GlueTransactionManager.lookup_endTransaction.mp running).2
  | changed _ _ =>
      rw [change_sequence] at running
      exact .inl running
  | gave _ => exact .inl running

/-- What was started in a run has a sequence number from its start on. -/
theorem sequence_of_run {later : List (CatalogAction Transaction Schema)} {transaction : Transaction} {n : ℕ}
    (run : Run Step s later s') (running : s'.manager.transactionSequence.lookup transaction = some n) :
    s.manager.transactionSequence.lookup transaction = some n ∨ s.manager.nextSequence ≤ n := by
  induction run with
  | nil => exact .inl running
  | cons first _ ih =>
      have increasing := nextSequence_le_step first
      cases ih running with
      | inr new => exact .inr (increasing.trans new)
      | inl old =>
          cases sequence_of_step first old with
          | inl known => exact .inl known
          | inr started => exact .inr started.2.ge

theorem le_of_started {later : List (CatalogAction Transaction Schema)} {transaction : Transaction} {n : ℕ}
    (run : Run Step s later s') (started : .startTransaction transaction ∈ later)
    (running : s'.manager.transactionSequence.lookup transaction = some n) : s.manager.nextSequence ≤ n := by
  induction run with
  | nil => cases started
  | cons first rest ih =>
      have increasing := nextSequence_le_step first
      cases List.mem_cons.mp started with
      | inr later => exact increasing.trans (ih later running)
      | inl here =>
          subst here
          cases sequence_of_run rest running with
          | inr new => exact increasing.trans new
          | inl old =>
              -- its number is the one of this start, as it did not run before
              simp only [Step, step] at first
              split_ifs at first with idle
              cases first
              cases GlueTransactionManager.lookup_startTransaction.mp old with
              | inl new => exact new.2.ge
              | inr known => exact absurd rfl known.1

omit [DecidableEq Schema] in
/-- An end that leaves only transactions started after the stamp frees the entry. -/
theorem not_alive_of_finish {entry : CatalogEntry} {stamp : ℕ} {transaction : Transaction}
    (gone : Gone entry stamp s) (young : ∀ other n,
      (s.finish transaction).manager.transactionSequence.lookup other = some n → stamp ≤ n) :
    ¬ (s.finish transaction).Alive entry := by
  rintro (listed | ⟨retired, member, same⟩)
  · exact gone.unlisted entry listed rfl
  · obtain ⟨known, other, n, differs, running, before⟩ :=
      GlueTransactionManager.mem_retired_endTransaction.mp member
    have late := young other n (GlueTransactionManager.lookup_endTransaction.mpr ⟨differs, running⟩)
    have early := gone.stamped retired known same
    omega

/-- The action ends a transaction. -/
def Ends (action : CatalogAction Transaction Schema) : Prop :=
  ∃ transaction, action = .commitTransaction transaction ∨ action = .rollbackTransaction transaction

theorem finish_of_ends (stepped : s.Step action s') (ends : Ends action) :
    ∃ transaction, s' = s.finish transaction := by
  obtain ⟨transaction, ended⟩ := ends
  refine ⟨transaction, ?_⟩
  cases ended with
  | inl commit =>
      subst commit
      simp only [Step, step] at stepped
      split_ifs at stepped
      exact (Option.some.inj stepped).symm
  | inr rollback =>
      subst rollback
      simp only [Step, step] at stepped
      split_ifs at stepped
      exact (Option.some.inj stepped).symm

/-- What a running transaction was given was not destroyed, and an entry that was
retired is, at an end that leaves only transactions started after it. -/
theorem entries_outlive_readers {actions : List (CatalogAction Transaction Schema)} (run : Run Step {} actions s) :
    (∀ one ∈ s.held, s.Running one.1 ∧ s.Alive one.2) ∧
      ∀ {entry action s₁ later s₂ last s₃}, s.Listed entry → s.Step action s₁ → ¬ s₁.Listed entry →
        Run Step s₁ later s₂ → s₂.Step last s₃ → Ends last →
        (∀ transaction, s₃.Running transaction → .startTransaction transaction ∈ later) → ¬ s₃.Alive entry := by
  have consistent : s.Consistent := run.invariant consistent_step consistent_init
  constructor
  · intro one member
    obtain ⟨n, running, known⟩ := consistent.held one member
    refine ⟨GlueTransactionManager.isRunning_iff.mpr ⟨n, running⟩, ?_⟩
    cases known with
    | inl listed => exact .inl listed
    | inr retired =>
        obtain ⟨retired, here, same, -⟩ := retired
        exact .inr ⟨retired, here, same⟩
  · intro entry action s₁ later s₂ last s₃ listed retires unlisted run ended ends young
    have gone : Gone entry s₁.manager.nextSequence s₂ :=
      run.invariant gone_step (gone_of_step consistent listed retires unlisted)
    obtain ⟨transaction, rfl⟩ := finish_of_ends ended ends
    apply not_alive_of_finish gone
    intro other n running
    have started := young other (GlueTransactionManager.isRunning_iff.mpr ⟨n, running⟩)
    exact le_of_started run started (GlueTransactionManager.lookup_endTransaction.mp running).2

section Examples

/-- The state some steps lead to. -/
def after (s : CatalogState ℕ Unit) (actions : List (CatalogAction ℕ Unit)) : CatalogState ℕ Unit :=
  (actions.foldlM step s).getD s

theorem run_after {s : CatalogState ℕ Unit} {actions : List (CatalogAction ℕ Unit)}
    (taken : (actions.foldlM step s).isSome = true) : Run Step s actions (s.after actions) := by
  obtain ⟨t, taken⟩ := Option.isSome_iff_exists.mp taken
  rw [after, taken]
  exact Run.of_foldlM taken

theorem step_after {s : CatalogState ℕ Unit} {action : CatalogAction ℕ Unit}
    (taken : ([action].foldlM step s).isSome = true) : s.Step action (s.after [action]) := by
  cases run_after taken with
  | cons first rest =>
      cases rest
      exact first

/-- A table of one column. -/
def ordersAt (version : Text) : GlueTableInfo :=
  { name := "orders", versionId := version, columns := [{ name := "id", type := "int" }] }

/-- Two transactions have read the first version of a table. -/
def readers : CatalogState ℕ Unit :=
  ({} : CatalogState ℕ Unit).after [.startTransaction 1, .startTransaction 2,
    .getEntry 1 () "orders" (some (ordersAt "1")), .getEntry 2 () "ORDERS" (some (ordersAt "1"))]

def firstOrders : CatalogEntry := ⟨0, ordersAt "1"⟩

/-- The first of them has read the second version. -/
def replaced : CatalogState ℕ Unit := readers.after [.getEntry 1 () "orders" (some (ordersAt "2"))]

def startedLater : CatalogState ℕ Unit := replaced.after [.startTransaction 3, .commitTransaction 1]

theorem entries_outlive_two_readers : (readers.Running 2 ∧ readers.Alive firstOrders) ∧
    ¬ (startedLater.after [.rollbackTransaction 2]).Alive firstOrders := by
  have run : Run Step {} [.startTransaction 1, .startTransaction 2, .getEntry 1 () "orders" (some (ordersAt "1")),
      .getEntry 2 () "ORDERS" (some (ordersAt "1"))] readers := run_after (by decide +kernel)
  obtain ⟨outlives, frees⟩ := entries_outlive_readers run
  constructor
  · exact outlives (2, firstOrders) (by simp [show readers.held = [(1, firstOrders), (2, firstOrders)] from rfl])
  · refine @frees firstOrders _ replaced [.startTransaction 3, .commitTransaction 1] startedLater _ _
      ⟨(), "orders".toList, rfl⟩ (step_after (by decide +kernel)) ?_ (run_after (by decide +kernel))
      (step_after (by decide +kernel)) ⟨2, .inr rfl⟩ ?_
    · rintro ⟨schema, name, found⟩
      have numbers : (replaced.tables ()).scanned.map (·.object) = [2] := by decide +kernel
      have member : (0 : ℕ) ∈ (replaced.tables ()).scanned.map (·.object) :=
        List.mem_map.mpr ⟨firstOrders, mem_scanned.mpr ⟨name, found⟩, rfl⟩
      simp [numbers] at member
    · intro transaction running
      have only : (startedLater.after [.rollbackTransaction 2]).manager.transactionSequence.keys = [3] := by
        decide +kernel
      have member : transaction ∈ (startedLater.after [.rollbackTransaction 2]).manager.transactionSequence.keys := by
        exact AList.mem_keys.mp (AList.lookup_isSome.mp running)
      simp [only] at member
      simp [member]

end Examples

end CatalogState

end DuckGlue
