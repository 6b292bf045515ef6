import DuckGlue.Catalog.PartitionRegistry
import DuckGlue.Lib.PatientRequests
import DuckGlue.Planning.GlueHiveInsert

/-! # Glue that answers truthfully

Glue refuses only what is not so: to create what is there, to change what is not, and does
not do what it refuses. It may throttle requests for a while, and process them in several
answers.
-/

namespace DuckGlue

open StringUtil BatchedRequests Draining FailingRuns

/-- The errors of a batch: of all that is excused by a code, and of what is throttled. -/
structure RefusesOnly (excused : List Text → Prop) (code : Text) (throttled : Prop) (request : List (List Text))
    (errors : List PartitionError) : Prop where
  once : (errors.map (·.values)).Nodup
  sent : ∀ error ∈ errors, error.values ∈ request
  justified : ∀ error ∈ errors, error.code = code → excused error.values
  named : ∀ values ∈ request, excused values → ∃ error ∈ errors, error.values = values
  transient : ∀ error ∈ errors, error.code ≠ code → isTransientPartitionError error.code = true ∧ throttled

variable {Target Rest : Type}

/-- What Glue does when it is the one client's. -/
structure GlueServer.Truthful (server : GlueServer Target Rest) : Prop where
  getTable : ∀ moment held, server.getTable moment held = .ok held.table
  updateTable : ∀ moment held input version, version = none ∨ version = held.table.versionId →
    ∃ given, server.updateTable moment held input version = .ok given
  getPartition : ∀ moment held values partition, held.partitions values = some partition →
    server.getPartition moment held values = .ok partition
  getMissing : ∀ moment held values, held.partitions values = none →
    ∃ error, server.getPartition moment held values = .error error ∧ error.type = .entityNotFound
  createPartition : ∀ moment held input, ¬ held.registered input.values →
    server.createPartition moment held input = .ok ()
  createRegistered : ∀ moment held input, held.registered input.values →
    ∃ error, server.createPartition moment held input = .error error ∧ error.type = .alreadyExists
  deletePartition : ∀ moment held values, held.registered values →
    server.deletePartition moment held values = .ok ()
  deleteMissing : ∀ moment held values, ¬ held.registered values →
    ∃ error, server.deletePartition moment held values = .error error ∧ error.type = .entityNotFound
  updatePartition : ∀ moment held values input, held.registered values →
    input.values = values ∨ ¬ held.registered input.values →
    server.updatePartition moment held values input = .ok ()
  batchGetPartition : ∀ moment held, ∃ throttled, Patient 4 throttled ∧ ∀ n keys, ∃ answer,
    server.batchGetPartition moment held n keys = .ok answer ∧ GlueAPI.Answers held.locations keys answer ∧
      (keys ≠ [] → ¬ throttled n → answer.unprocessed.length < keys.length)
  batchCreatePartition : ∀ moment held, ∃ throttled, Patient 4 throttled ∧ ∀ n request, ∃ errors,
    server.batchCreatePartition moment held n request = .ok errors ∧
      RefusesOnly held.registered "AlreadyExistsException".toList (throttled n) (request.map (·.values)) errors
  batchDeletePartition : ∀ moment held, ∃ throttled, Patient 4 throttled ∧ ∀ n request, ∃ errors,
    server.batchDeletePartition moment held n request = .ok errors ∧
      RefusesOnly (fun values => ¬ held.registered values) "EntityNotFoundException".toList (throttled n) request errors
  unchanged : ∀ moment held values, server.changedAnyway moment held values = false

/-- Answers by what Glue holds alone, at once. -/
def honestServer : GlueServer Target Rest where
  getTable _ held := .ok held.table
  updateTable _ held _ version :=
    if version = none ∨ version = held.table.versionId then .ok ('1' :: held.table.versionId.getD [], 0)
    else .error ⟨.concurrentModification, "ConcurrentModificationException", []⟩
  getPartition _ held values :=
    match held.partitions values with
    | some partition => .ok partition
    | none => .error ⟨.entityNotFound, "EntityNotFoundException", []⟩
  createPartition _ held input :=
    if (held.partitions input.values).isSome then .error ⟨.alreadyExists, "AlreadyExistsException", []⟩ else .ok ()
  deletePartition _ held values :=
    if (held.partitions values).isSome then .ok () else .error ⟨.entityNotFound, "EntityNotFoundException", []⟩
  updatePartition _ held values input :=
    if (held.partitions values).isNone then .error ⟨.entityNotFound, "EntityNotFoundException", []⟩
    else if input.values ≠ values && (held.partitions input.values).isSome then
      .error ⟨.alreadyExists, "AlreadyExistsException", []⟩
    else .ok ()
  batchGetPartition _ held _ keys :=
    .ok ⟨keys.filterMap fun values => (held.locations values).map fun location => (values, location), []⟩
  batchCreatePartition _ held _ request :=
    .ok (((request.map (·.values)).dedup.filter fun values => (held.partitions values).isSome).map fun values =>
      ⟨values, "AlreadyExistsException", []⟩)
  batchDeletePartition _ held _ request :=
    .ok ((request.dedup.filter fun values => (held.partitions values).isNone).map fun values =>
      ⟨values, "EntityNotFoundException", []⟩)
  changedAnyway _ _ _ := false
  updatedAnyway _ _ _ := none
  partitionAskedFor := by
    intro _ held values partition answered
    split at answered
    · rename_i found
      cases answered
      exact held.keyed found
    · cases answered
  unprocessedAskedFor := by
    intro _ _ _ keys answer answered
    cases answered
    exact Nat.zero_le _
  errorsAskedFor := by
    intro _ _ _ request errors answered error member
    cases answered
    obtain ⟨values, kept, rfl⟩ := List.mem_map.mp member
    exact List.mem_dedup.mp (List.mem_of_mem_filter kept)

/-- One error of a code for each of the values that are excused. -/
theorem refusesOnly_excused {excused : List Text → Prop} {test : List Text → Bool} {code : Text}
    {request : List (List Text)} {throttled : Prop} (tests : ∀ values, test values = true ↔ excused values) :
    RefusesOnly excused code throttled request
      ((request.dedup.filter test).map fun values => ⟨values, code, []⟩) where
  once := by
    rw [List.map_map]
    exact ((List.nodup_dedup request).filter _).map fun _ _ same => same
  sent := by
    intro error member
    obtain ⟨values, kept, rfl⟩ := List.mem_map.mp member
    exact List.mem_dedup.mp (List.mem_of_mem_filter kept)
  justified := by
    intro error member _
    obtain ⟨values, kept, rfl⟩ := List.mem_map.mp member
    exact (tests values).mp (List.mem_filter.mp kept).2
  named := by
    intro values member isExcused
    refine ⟨⟨values, code, []⟩, List.mem_map_of_mem (List.mem_filter.mpr ⟨List.mem_dedup.mpr member, ?_⟩), rfl⟩
    exact (tests values).mpr isExcused
  transient := by
    intro error member other
    obtain ⟨values, kept, rfl⟩ := List.mem_map.mp member
    exact absurd rfl other

theorem honestServer_truthful : (honestServer : GlueServer Target Rest).Truthful where
  getTable _ _ := rfl
  updateTable _ held _ version named := ⟨_, if_pos named⟩
  getPartition _ held values partition found := by
    simp only [honestServer, found]
  getMissing _ held values missing := by
    refine ⟨⟨.entityNotFound, "EntityNotFoundException", []⟩, ?_, rfl⟩
    simp only [honestServer, missing]
  createPartition _ held input missing := if_neg missing
  createRegistered _ held input there := ⟨_, if_pos there, rfl⟩
  deletePartition _ held values there := if_pos there
  deleteMissing _ held values missing := ⟨_, if_neg missing, rfl⟩
  updatePartition _ held values input there free := by
    have known : ¬ (held.partitions values).isNone = true := by
      rw [Option.isNone_iff_eq_none]
      exact Option.isSome_iff_ne_none.mp there
    have open_ : ¬ (input.values ≠ values && (held.partitions input.values).isSome) = true := by
      rw [Bool.and_eq_true, decide_eq_true_eq]
      intro both
      exact free.elim both.1 fun missing => missing both.2
    unfold honestServer
    dsimp only
    rw [if_neg known, if_neg open_]
  batchGetPartition _ held := by
    refine ⟨_, patient_never (by decide), fun _ keys => ⟨_, rfl, ⟨List.nil_subperm, ?_⟩, ?_⟩⟩
    · intro values location
      rw [List.diff_nil, List.mem_filterMap]
      constructor
      · intro found
        obtain ⟨key, member, here⟩ := found
        obtain ⟨_, located, same⟩ := Option.map_eq_some_iff.mp here
        cases same
        exact ⟨member, located⟩
      · intro both
        exact ⟨values, both.1, by rw [both.2]; rfl⟩
    · intro some _
      exact List.length_pos_of_ne_nil some
  batchCreatePartition _ held :=
    ⟨_, patient_never (by decide), fun _ _ => ⟨_, rfl, refusesOnly_excused fun _ => Iff.rfl⟩⟩
  batchDeletePartition _ held := by
    refine ⟨_, patient_never (by decide), fun _ _ => ⟨_, rfl, refusesOnly_excused fun values => ?_⟩⟩
    rw [HeldTable.registered, Bool.not_eq_true, Option.isSome_eq_false_iff]
  unchanged _ _ _ := rfl

/-- What a statement may not change by chance: all of the definition but its version, and
the partitions. -/
structure PartitionedTable (Target Rest : Type) where
  definition : AwsTableInput Target Rest
  partitions : List Text → Option (AwsPartition Rest)

def HeldTable.contents (held : HeldTable Target Rest) : PartitionedTable Target Rest :=
  ⟨GlueAPI.updateGlueTable held.table id, held.partitions⟩

namespace PartitionedTable

variable (t : PartitionedTable Target Rest)

/-- The partition is there, as it was or with the table's descriptor. -/
def add (partition : GluePartitionInput) : PartitionedTable Target Rest :=
  { t with
    partitions := fun values =>
      match t.partitions values with
      | some registered => some registered
      | none =>
          if values = partition.values then
            some { values, storageDescriptor := { t.definition.storageDescriptor with location := partition.location } }
          else none }

def erase (values : List Text) : PartitionedTable Target Rest :=
  { t with partitions := fun other => if other = values then none else t.partitions other }

/-- The partition in the place of that of the values. -/
def replace (values : List Text) (partition : AwsPartition Rest) : PartitionedTable Target Rest :=
  { t with
    partitions := fun other =>
      if other = partition.values then some partition else if other = values then none else t.partitions other }

def relocate (location : Text) : PartitionedTable Target Rest :=
  { t with
    definition :=
      { t.definition with storageDescriptor := { t.definition.storageDescriptor with location := location } } }

variable {t}

theorem foldl_add {added : List GluePartitionInput} : added.foldl add t =
    { t with
      partitions := fun values =>
        match t.partitions values with
        | some registered => some registered
        | none => (added.find? fun partition => partition.values = values).map fun partition =>
            { values, storageDescriptor := { t.definition.storageDescriptor with location := partition.location } } } := by
  induction added generalizing t with
  | nil =>
      cases t with
      | mk definition partitions =>
          simp only [List.foldl_nil, List.find?_nil, Option.map_none, mk.injEq, true_and]
          funext values
          cases partitions values <;> rfl
  | cons first rest ih =>
      rw [List.foldl_cons, ih]
      simp only [add, mk.injEq, true_and]
      funext values
      cases t.partitions values with
      | some registered => rfl
      | none =>
          by_cases same : values = first.values
          · subst same
            simp
          · simp [same, Ne.symm same]

theorem foldl_erase {erased : List (List Text)} : erased.foldl erase t =
    { t with partitions := fun values => if values ∈ erased then none else t.partitions values } := by
  induction erased generalizing t with
  | nil => simp
  | cons first rest ih =>
      rw [List.foldl_cons, ih]
      simp only [erase, mk.injEq, true_and]
      funext values
      by_cases same : values = first <;> simp [same]

end PartitionedTable

section Batches

variable {table : GlueTableInfo} {held : HeldTable Target Rest} {throttled : ℕ → Prop}
  {glue : ℕ → List GluePartitionInput → PartitionAnswer} {partitions : List GluePartitionInput}
  {gone : ℕ → List (List Text) → PartitionAnswer} {values : List (List Text)}

/-- Before an attempt at a batch, every partition up to it is registered, created or pending,
and nothing is created that was registered. -/
structure Creating (held : HeldTable Target Rest) (partitions : List GluePartitionInput) (upTo : ℕ)
    (pending : List GlueAPI.IndexedPartition) (s : GlueAPI.CreateState) : Prop where
  pendingOwn : pending ⊆ partitions.zipIdx
  created : ∀ partition ∈ GlueAPI.createdBy s.calls, partition ∈ partitions ∧ ¬ held.registered partition.values
  done : ∀ item ∈ ((batches 100 partitions.zipIdx).take upTo).flatten,
    held.registered item.1.values ∨ item.1 ∈ GlueAPI.createdBy s.calls ∨ item ∈ pending

theorem indexed_inj (distinct : (partitions.map (·.values)).Nodup) {a b : GlueAPI.IndexedPartition}
    (aMember : a ∈ partitions.zipIdx) (bMember : b ∈ partitions.zipIdx) (same : a.1.values = b.1.values) : a = b := by
  have indexed : (partitions.zipIdx.map (·.1.values)).Nodup := by
    have values := congrArg (List.map fun partition : GluePartitionInput => partition.values)
      (List.zipIdx_map_fst 0 partitions)
    rw [List.map_map] at values
    exact values.symm ▸ distinct
  exact List.inj_on_of_nodup_map indexed aMember bMember same

theorem mem_of_mem_zipIdx {item : GlueAPI.IndexedPartition} (member : item ∈ partitions.zipIdx) : item.1 ∈ partitions := by
  have firsts := List.zipIdx_map_fst 0 partitions
  rw [← firsts]
  exact List.mem_map_of_mem member

theorem isAlreadyExists_iff {error : PartitionError} :
    GlueAPI.isAlreadyExists error = true ↔ error.code = "AlreadyExistsException".toList := decide_eq_true_iff

/-- An attempt that nothing is injected into sends all that is pending. -/
theorem createAttempt_ok {batch number : ℕ} {pending : List GlueAPI.IndexedPartition} {s : GlueAPI.CreateState}
    {errors : List PartitionError} {judged : List (GlueAPI.IndexedPartition × PartitionError)} (some : pending ≠ [])
    (answered : glue s.calls.length (pending.map (·.1)) = .ok errors)
    (matched : errors.mapM (GlueAPI.createError table pending) = .ok judged) :
    GlueAPI.createAttempt table none glue batch number pending s =
      (⟨s.calls ++ [⟨batch, number, pending, .ok errors⟩],
          s.alreadyExisting ++ (judged.filter fun entry => GlueAPI.isAlreadyExists entry.2).map (·.1.1)⟩,
        .ok ((judged.filter fun entry => !GlueAPI.isAlreadyExists entry.2).map fun entry =>
          ⟨entry.1, entry.2.code, entry.2.message⟩)) := by
  have fails : ∀ item : GlueAPI.IndexedPartition, InjectedPartitionFailure.fails none item.2 number = false := fun _ => rfl
  have sent : (pending.filter fun item => !InjectedPartitionFailure.fails none item.2 number) = pending := by
    simp [fails]
  have failing : (pending.filter fun item => InjectedPartitionFailure.fails none item.2 number) = [] := by
    simp [fails]
  unfold GlueAPI.createAttempt
  rw [sent, failing, if_neg (by simpa using some)]
  simp only [answered, matched]
  rfl

theorem create_patiently (distinct : (partitions.map (·.values)).Nodup)
    (answers : ∀ n request, ∃ errors, glue n request = .ok errors ∧
      RefusesOnly held.registered "AlreadyExistsException".toList (throttled n) (request.map (·.values)) errors) :
    (GlueAPI.createService table none glue).Patiently throttled (·.calls.length)
      (fun batch pending s => Creating held partitions (batch + 1) pending s) := by
  intro batch number pending s some creating
  obtain ⟨errors, answered, refuses⟩ := answers s.calls.length (pending.map (·.1))
  have found : ∀ error ∈ errors, ∃ entry, GlueAPI.createError table pending error = .ok entry := by
    intro error member
    obtain ⟨partition, sent, same⟩ := List.mem_map.mp (refuses.sent error member)
    obtain ⟨item, inPending, rfl⟩ := List.mem_map.mp sent
    unfold GlueAPI.createError
    cases here : pending.find? fun item => item.1.values = error.values with
    | some item => exact ⟨_, rfl⟩
    | none =>
        have differs := List.find?_eq_none.mp here item inPending
        exact absurd same (by simpa using differs)
  have allFound : ∃ judged, errors.mapM (GlueAPI.createError table pending) = .ok judged := by
    cases matched : errors.mapM (GlueAPI.createError table pending) with
    | ok judged => exact ⟨judged, rfl⟩
    | error thrown =>
        have each : ∀ error ∈ errors, (GlueAPI.createError table pending error).isOk = true := by
          intro error member
          obtain ⟨entry, ok⟩ := found error member
          rw [ok]
          rfl
        have whole := Fallible.mapM_isOk.mpr each
        rw [matched] at whole
        cases whole
  obtain ⟨judged, matched⟩ := allFound
  have judge : ∀ entry ∈ judged, entry.1 ∈ pending ∧ entry.2 ∈ errors ∧ entry.1.1.values = entry.2.values := by
    intro entry member
    obtain ⟨error, inErrors, here⟩ := Fallible.mem_of_mapM matched member
    obtain ⟨inPending, values, rfl⟩ := GlueAPI.createError_ok here
    exact ⟨inPending, inErrors, values⟩
  have calls := @GlueAPI.createdBy_append ⟨batch, number, pending, .ok errors⟩ errors s.calls rfl
  refine ⟨_, _, createAttempt_ok some answered matched, ⟨?_, ?_, ?_⟩, by simp, ?_, ?_⟩
  · intro item member
    obtain ⟨failure, inFailures, rfl⟩ := List.mem_map.mp member
    obtain ⟨entry, kept, rfl⟩ := List.mem_map.mp inFailures
    exact creating.pendingOwn (judge entry (List.mem_filter.mp kept).1).1
  · intro partition member
    rw [calls] at member
    rcases List.mem_append.mp member with before | now
    · exact creating.created partition before
    · obtain ⟨item, unnamed, rfl⟩ := List.mem_map.mp now
      obtain ⟨inPending, none⟩ := List.mem_filter.mp unnamed
      refine ⟨mem_of_mem_zipIdx (creating.pendingOwn inPending), fun there => ?_⟩
      obtain ⟨error, inErrors, same⟩ :=
        refuses.named item.1.values (List.mem_map_of_mem (List.mem_map_of_mem inPending)) there
      have differs := List.all_eq_true.mp none error inErrors
      simp [same] at differs
  · intro item member
    rw [calls]
    rcases creating.done item member with there | made | waiting
    · exact .inl there
    · exact .inr (.inl (List.mem_append_left _ made))
    · by_cases named : ∃ error ∈ errors, error.values = item.1.values
      · obtain ⟨error, inErrors, same⟩ := named
        obtain ⟨entry, inJudged, here⟩ := Fallible.mem_mapM matched inErrors
        obtain ⟨inPending, values, rfl⟩ := GlueAPI.createError_ok here
        have own : entry.1 = item :=
          indexed_inj distinct (creating.pendingOwn inPending) (creating.pendingOwn waiting) (values.trans same)
        by_cases exists_ : entry.2.code = "AlreadyExistsException".toList
        · left
          rw [← same]
          exact refuses.justified entry.2 inErrors exists_
        · right
          right
          have kept : entry ∈ judged.filter fun entry => !GlueAPI.isAlreadyExists entry.2 := by
            rw [List.mem_filter]
            exact ⟨inJudged, by rw [Bool.not_eq_true', ← Bool.not_eq_true, isAlreadyExists_iff]; exact exists_⟩
          rw [← own]
          exact List.mem_map.mpr ⟨_, List.mem_map_of_mem kept, rfl⟩
      · right
        left
        apply List.mem_append_right
        apply List.mem_map_of_mem
        rw [List.mem_filter, List.all_eq_true]
        refine ⟨waiting, fun error inErrors => ?_⟩
        have differs := fun same => named ⟨error, inErrors, same⟩
        simpa using differs
  · intro failure member
    obtain ⟨entry, kept, rfl⟩ := List.mem_map.mp member
    obtain ⟨inJudged, notExisting⟩ := List.mem_filter.mp kept
    rw [Bool.not_eq_true', ← Bool.not_eq_true, isAlreadyExists_iff] at notExisting
    exact (refuses.transient entry.2 (judge entry inJudged).2.1 notExisting).1
  · intro free
    rw [List.map_eq_nil_iff, List.filter_eq_nil_iff]
    intro entry inJudged
    have code : entry.2.code = "AlreadyExistsException".toList := by
      by_contra other
      exact free (refuses.transient entry.2 (judge entry inJudged).2.1 other).2
    rw [isAlreadyExists_iff.mpr code]
    exact Bool.false_ne_true

/-- Exactly what was not registered is created. -/
theorem createPartitions_truthful (distinct : (partitions.map (·.values)).Nodup) (patient : Patient 4 throttled)
    (answers : ∀ n request, ∃ errors, glue n request = .ok errors ∧
      RefusesOnly held.registered "AlreadyExistsException".toList (throttled n) (request.map (·.values)) errors) :
    ∃ s existing, GlueAPI.batchCreatePartitions table none glue (.ok ()) true partitions = (s, .ok existing) ∧
      ∀ partition, partition ∈ GlueAPI.createdBy s.calls ↔ partition ∈ partitions ∧ ¬ held.registered partition.values := by
  have all : (batches 100 partitions.zipIdx).flatten = partitions.zipIdx := batches_flatten (by decide)
  have enter : ∀ {n : ℕ} {pending : List GlueAPI.IndexedPartition} {s : GlueAPI.CreateState},
      (batches 100 partitions.zipIdx)[n]? = some pending → Creating held partitions n [] s →
      Creating held partitions (n + 1) pending s := by
    intro n pending s own creating
    constructor
    · rw [← all]
      exact (List.sublist_flatten_of_mem (List.mem_of_getElem? own)).subset
    · exact creating.created
    · intro item member
      rw [List.take_add_one, own, List.flatten_append, List.mem_append] at member
      rcases member with earlier | here
      · rcases creating.done item earlier with there | made | none
        · exact .inl there
        · exact .inr (.inl made)
        · cases none
      · right
        right
        simpa using here
  have start : Creating held partitions 0 [] {} := by
    constructor
    · exact List.nil_subset _
    · intro partition none
      cases none
    · intro item none
      cases none
  obtain ⟨s, ran, creating⟩ := Service.settleAll_patiently
    (@create_patiently _ _ table _ _ _ _ distinct answers) patient enter id start
  have covered : ∀ partition ∈ partitions,
      held.registered partition.values ∨ partition ∈ GlueAPI.createdBy s.calls := by
    intro partition member
    obtain ⟨index, inside, rfl⟩ := List.mem_iff_getElem.mp member
    have indexed : (partitions[index], index) ∈ partitions.zipIdx :=
      List.mk_mem_zipIdx_iff_getElem?.mpr (List.getElem?_eq_getElem inside)
    have done := creating.done (partitions[index], index)
    rw [List.take_length, all] at done
    rcases done indexed with there | made | none
    · exact .inl there
    · exact .inr made
    · cases none
  have created : ∀ partition, partition ∈ GlueAPI.createdBy s.calls ↔
      partition ∈ partitions ∧ ¬ held.registered partition.values := by
    intro partition
    constructor
    · exact creating.created partition
    · intro missing
      exact (covered partition missing.1).resolve_left missing.2
  unfold GlueAPI.batchCreatePartitions
  dsimp only
  split_ifs with none absent
  · refine ⟨{}, [], rfl, fun partition => ?_⟩
    rw [List.isEmpty_iff.mp none]
    simp [GlueAPI.createdBy]
  · cases absent
  · rw [ran]
    exact ⟨s, _, rfl, created⟩

/-- Before an attempt at a batch, every partition up to it is missing, deleted or pending. -/
structure Deleting (held : HeldTable Target Rest) (values : List (List Text)) (upTo : ℕ) (pending : List (List Text))
    (calls : List (Call (List Text) PartitionAnswer)) : Prop where
  pendingOwn : pending ⊆ values
  deleted : deletedBy calls ⊆ values
  done : ∀ item ∈ ((batches 25 values).take upTo).flatten,
    ¬ held.registered item ∨ item ∈ deletedBy calls ∨ item ∈ pending

theorem delete_patiently {databaseName tableName : Text} (answers : ∀ n request, ∃ errors, gone n request = .ok errors ∧
      RefusesOnly (fun values => ¬ held.registered values) "EntityNotFoundException".toList (throttled n) request errors) :
    (GlueAPI.deleteService databaseName tableName gone).Patiently throttled (·.length)
      (fun batch pending calls => Deleting held values (batch + 1) pending calls) := by
  intro batch number pending calls some deleting
  obtain ⟨errors, answered, refuses⟩ := answers calls.length pending
  let later := errors.filter fun error => error.code ≠ "EntityNotFoundException".toList
  have attempted : (GlueAPI.deleteService databaseName tableName gone).attempt batch number pending calls =
      (calls ++ [⟨batch, number, pending, .ok errors⟩],
        .ok (later.map fun error => ⟨error.values, error.code, error.message⟩)) := by
    change GlueAPI.deleteAttempt gone batch number pending calls = _
    unfold GlueAPI.deleteAttempt
    simp only [answered]
    rfl
  have isLater : ∀ error ∈ later, error ∈ errors ∧ error.code ≠ "EntityNotFoundException".toList := by
    intro error member
    exact ⟨List.mem_of_mem_filter member, of_decide_eq_true (List.mem_filter.mp member).2⟩
  have deletes : deletedBy (calls ++ [⟨batch, number, pending, .ok errors⟩]) = deletedBy calls ++
      pending.filter fun values => errors.all fun error => error.values ≠ values := by
    simp [deletedBy]
  refine ⟨_, _, attempted, ⟨?_, ?_, ?_⟩, by simp, ?_, ?_⟩
  · intro item member
    obtain ⟨failure, inFailures, rfl⟩ := List.mem_map.mp member
    obtain ⟨error, inLater, rfl⟩ := List.mem_map.mp inFailures
    exact deleting.pendingOwn (refuses.sent error (isLater error inLater).1)
  · rw [deletes]
    intro item member
    rcases List.mem_append.mp member with before | now
    · exact deleting.deleted before
    · exact deleting.pendingOwn (List.mem_of_mem_filter now)
  · intro item member
    rw [deletes]
    rcases deleting.done item member with missing | removed | waiting
    · exact .inl missing
    · exact .inr (.inl (List.mem_append_left _ removed))
    · by_cases named : ∃ error ∈ errors, error.values = item
      · obtain ⟨error, inErrors, rfl⟩ := named
        by_cases notFound : error.code = "EntityNotFoundException".toList
        · exact .inl (refuses.justified error inErrors notFound)
        · right
          right
          have kept : error ∈ later := List.mem_filter.mpr ⟨inErrors, decide_eq_true notFound⟩
          exact List.mem_map.mpr ⟨_, List.mem_map_of_mem kept, rfl⟩
      · right
        left
        apply List.mem_append_right
        rw [List.mem_filter, List.all_eq_true]
        refine ⟨waiting, fun error inErrors => ?_⟩
        have differs := fun same => named ⟨error, inErrors, same⟩
        simpa using differs
  · intro failure member
    obtain ⟨error, inLater, rfl⟩ := List.mem_map.mp member
    obtain ⟨inErrors, other⟩ := isLater error inLater
    exact (refuses.transient error inErrors other).1
  · intro free
    rw [List.map_eq_nil_iff, List.eq_nil_iff_forall_not_mem]
    intro error member
    obtain ⟨inErrors, other⟩ := isLater error member
    exact free (refuses.transient error inErrors other).2

/-- Everything registered among the partitions is deleted, and nothing else. -/
theorem deletePartitions_truthful {databaseName tableName : Text} (patient : Patient 4 throttled)
    (answers : ∀ n request, ∃ errors, gone n request = .ok errors ∧
      RefusesOnly (fun values => ¬ held.registered values) "EntityNotFoundException".toList (throttled n) request errors) :
    ∃ calls, GlueAPI.batchDeletePartitions databaseName tableName gone (.ok ()) values = (calls, .ok ()) ∧
      deletedBy calls ⊆ values ∧ ∀ item ∈ values, held.registered item → item ∈ deletedBy calls := by
  have all : (batches 25 values).flatten = values := batches_flatten (by decide)
  have enter : ∀ {n : ℕ} {pending : List (List Text)} {calls : List (Call (List Text) PartitionAnswer)},
      (batches 25 values)[n]? = some pending → Deleting held values n [] calls →
      Deleting held values (n + 1) pending calls := by
    intro n pending calls own deleting
    constructor
    · rw [← all]
      exact (List.sublist_flatten_of_mem (List.mem_of_getElem? own)).subset
    · exact deleting.deleted
    · intro item member
      rw [List.take_add_one, own, List.flatten_append, List.mem_append] at member
      rcases member with earlier | here
      · rcases deleting.done item earlier with missing | removed | none
        · exact .inl missing
        · exact .inr (.inl removed)
        · cases none
      · right
        right
        simpa using here
  have start : Deleting held values 0 [] [] := by
    constructor
    · exact List.nil_subset _
    · exact List.nil_subset _
    · intro item none
      cases none
  obtain ⟨calls, ran, deleting⟩ := Service.settleAll_patiently
    (@delete_patiently _ _ _ _ _ values databaseName tableName answers) patient enter id start
  refine ⟨calls, ran, deleting.deleted, fun item member there => ?_⟩
  have done := deleting.done item
  rw [List.take_length, all] at done
  rcases done member with missing | removed | none
  · exact absurd there missing
  · exact removed
  · cases none

/-- What is looked up are the partitions registered. -/
theorem existingPartitions_truthful {databaseName tableName : Text} {registered : List Text → Option Text}
    {locate : ℕ → List (List Text) → Except Exception LocationsAnswer} (patient : Patient 4 throttled)
    (answers : ∀ n keys, ∃ answer, locate n keys = .ok answer ∧ GlueAPI.Answers registered keys answer ∧
      (keys ≠ [] → ¬ throttled n → answer.unprocessed.length < keys.length)) :
    ∃ s existing, GlueAPI.partitionLocations databaseName tableName locate (4 * values.length + 1) values =
        some (s, .ok existing) ∧ ∀ item, item ∈ existing.keys ↔ item ∈ values ∧ (registered item).isSome = true := by
  have truthful : ∀ n keys answer, locate n keys = .ok answer → GlueAPI.Answers registered keys answer := by
    intro n keys answer answered
    obtain ⟨given, same, here, _⟩ := answers n keys
    rw [answered] at same
    cases same
    exact here
  have all : (batches 1000 values).flatten = values := batches_flatten (by decide)
  have room := @GlueAPI.room_of_fuel values (4 * values.length + 1) (Nat.lt_succ_self _)
  obtain ⟨s, result, drained, outcome⟩ := Source.drainAll_ends
    (@GlueAPI.locating_keeps databaseName tableName locate registered values truthful) room
    (fun own located => GlueAPI.Located.enter located own)
    (fun left => left.elim fun _ locating => GlueAPI.Locating.leave locating) GlueAPI.Located.start
  rcases outcome with ⟨rfl, processed, recorded, done⟩ | ⟨thrown, rfl, asked, refused⟩
  · rw [List.take_length, all] at done
    refine ⟨s, s.existing, ?_, fun item => ?_⟩
    · unfold GlueAPI.partitionLocations
      rw [drained]
    · have known := recorded.recorded item
      rw [← AList.mem_keys, ← AList.lookup_isSome, Option.isSome_iff_exists]
      simp only [known, done.mem_iff, Option.isSome_iff_exists, exists_and_left]
  · exfalso
    rcases refused with ⟨batch, keys, left, _, before, last, split, length, each⟩ | ⟨before, call, split, failed⟩
    · -- one of the four calls in a row was not throttled
      obtain ⟨k, few, free⟩ := patient before.length
      have inside : k < last.length := by omega
      have there : s.calls[before.length + k]? = some last[k] := by
        rw [split, List.getElem?_append_right (Nat.le_add_right _ _), Nat.add_sub_cancel_left]
        exact List.getElem?_eq_getElem inside
      have answered := asked.1.answered _ _ there
      obtain ⟨_, request, answer, own, nothing⟩ := each last[k] (List.getElem_mem inside)
      rw [own] at answered
      obtain ⟨given, same, _, fewer⟩ := answers (before.length + k) last[k].request
      rw [← answered] at same
      cases same
      have nonempty : last[k].request ≠ [] := by
        intro none
        rw [none] at request
        exact left request.symm.eq_nil
      have less := fewer nonempty free
      rw [nothing.length_eq] at less
      exact Nat.lt_irrefl _ less
    · have there : s.calls[before.length]? = some call := by
        rw [split, List.getElem?_append_right (Nat.le_refl _), Nat.sub_self]
        rfl
      have answered := asked.1.answered _ _ there
      obtain ⟨given, same, _⟩ := answers before.length call.request
      rw [failed, same] at answered
      cases answered

end Batches

section Requests

variable {server : GlueServer Target Rest} {access : GlueAccess} {schemaName tableName : Text}
  {s : GlueState Target Rest} {values : List Text} {location : Text}

theorem checked_ok {α : Type} {check : Except Exception α} {a : α} (passed : check = .ok a) :
    (GlueRun.checked check : GlueRun Target Rest α) s = .ok a s := by
  rw [passed]
  rfl

theorem ask_eq {α : Type} {answer : ℕ → HeldTable Target Rest → Except AwsError α} {given : Except AwsError α}
    (answered : answer s.moment s.held = given) : GlueRun.ask answer s = .ok given ⟨s.held, s.moment + 1⟩ := by
  unfold GlueRun.ask
  rw [answered]

section Request

variable {α : Type} {answer : ℕ → HeldTable Target Rest → Except AwsError α} {anyway : ℕ → HeldTable Target Rest → Option α}
  {after : HeldTable Target Rest → α → HeldTable Target Rest}

theorem request_ok {a : α} (answered : answer s.moment s.held = .ok a) :
    GlueRun.request answer anyway after s = .ok (.ok a) ⟨after s.held a, s.moment + 1⟩ := by
  unfold GlueRun.request
  rw [answered]

theorem request_refused {error : AwsError} (answered : answer s.moment s.held = .error error)
    (undone : anyway s.moment s.held = none) :
    GlueRun.request answer anyway after s = .ok (.error error) ⟨s.held, s.moment + 1⟩ := by
  unfold GlueRun.request
  rw [answered]
  dsimp only
  rw [undone]

end Request

theorem checkWritable_ok (writable : access.readOnly = false) (operation : Text) :
    checkWritable access operation = .ok () := by
  unfold checkWritable
  rw [writable]
  rfl

variable (truthful : server.Truthful)

include truthful

theorem getTable_truthful :
    GlueRun.getTable server schemaName tableName s = .ok (some s.held.table) ⟨s.held, s.moment + 1⟩ := by
  unfold GlueRun.getTable
  rw [bind_ok (ask_eq (truthful.getTable s.moment s.held))]
  rfl

theorem getPartition_truthful : GlueRun.getPartition server schemaName tableName values s =
    .ok ((s.held.partitions values).map toPartitionDetails) ⟨s.held, s.moment + 1⟩ := by
  unfold GlueRun.getPartition
  cases found : s.held.partitions values with
  | some partition =>
      rw [bind_ok (ask_eq (truthful.getPartition s.moment s.held values partition found))]
      rfl
  | none =>
      obtain ⟨error, answered, type⟩ := truthful.getMissing s.moment s.held values found
      rw [bind_ok (ask_eq answered)]
      dsimp only
      rw [if_pos type]
      rfl

theorem existing_truthful {looked : List (List Text)} :
    ∃ existing, GlueRun.existingPartitions server schemaName tableName looked s =
        .ok existing ⟨s.held, s.moment + 1⟩ ∧
      ∀ item, item ∈ existing ↔ item ∈ looked ∧ s.held.registered item := by
  obtain ⟨throttled, patient, answers⟩ := truthful.batchGetPartition s.moment s.held
  obtain ⟨calls, existing, ran, keys⟩ :=
    @existingPartitions_truthful throttled looked schemaName tableName _ _ patient answers
  refine ⟨existing.keys, ?_, fun item => ?_⟩
  · unfold GlueRun.existingPartitions
    rw [ran]
  · rw [keys, HeldTable.locations, Option.isSome_map]
    rfl

variable (writable : access.readOnly = false)

include writable

theorem updatePartition_truthful {partition : GluePartitionDetails Rest} {input : AwsPartition Rest} {shown : Text}
    (there : s.held.registered partition.values)
    (free : input.values = partition.values ∨ ¬ s.held.registered input.values) :
    GlueRun.updatePartition server access schemaName tableName partition input shown s =
      .ok () ⟨s.held.replace [partition.values] input, s.moment + 1⟩ := by
  unfold GlueRun.updatePartition
  rw [bind_ok (checked_ok (checkWritable_ok writable _)),
    bind_ok (request_ok (truthful.updatePartition s.moment s.held partition.values input there free))]
  rfl

theorem setTableLocation_truthful :
    ∃ held moment, GlueRun.setTableLocation server access schemaName tableName s.held.table location s =
        .ok () ⟨held, moment⟩ ∧ held.contents = s.held.contents.relocate location ∧
      held.partitions = s.held.partitions := by
  obtain ⟨given, answered⟩ := truthful.updateTable s.moment s.held
    (GlueAPI.updateGlueTable s.held.table (GlueAPI.modify · (.location location))) s.held.table.versionId (.inr rfl)
  let input := GlueAPI.updateGlueTable s.held.table (GlueAPI.modify · (.location location))
  refine ⟨{ s.held with table := .ofInput input given.1 given.2 }, s.moment + 1, ?_, rfl, rfl⟩
  · unfold GlueRun.setTableLocation
    rw [bind_ok (checked_ok (checkWritable_ok writable _)), bind_ok (request_ok answered)]
    rfl

theorem batchCreate_truthful {table : AwsTable Target Rest} {partitions : List GluePartitionInput}
    (uninjected : access.injected = none) (distinct : (partitions.map (·.values)).Nodup)
    (current : ∀ location, { table.storageDescriptor with location := location } =
      { s.held.table.storageDescriptor with location := location }) :
    ∃ existing held moment, GlueRun.batchCreatePartitions server access schemaName table partitions s =
        .ok existing ⟨held, moment⟩ ∧ held.table = s.held.table ∧
      held.contents = partitions.foldl PartitionedTable.add s.held.contents := by
  obtain ⟨throttled, patient, answers⟩ := truthful.batchCreatePartition s.moment s.held
  obtain ⟨sent, existing, ran, created⟩ :=
    @createPartitions_truthful _ _ (toTableInfo table schemaName) s.held _ _ partitions distinct patient answers
  refine ⟨existing, s.held.create table.storageDescriptor (GlueAPI.createdBy sent.calls), s.moment + 1, ?_, rfl, ?_⟩
  · have nothing : ((refusedBy (·.1.values) sent.calls).map (·.1)).filter (fun partition : GluePartitionInput =>
        server.changedAnyway s.moment s.held partition.values) = [] := by
      simp only [truthful.unchanged, List.filter_false]
    unfold GlueRun.batchCreatePartitions
    rw [uninjected, checkWritable_ok writable, ran]
    dsimp only
    rw [nothing, List.append_nil]
  · have first : ∀ values, ¬ s.held.registered values →
        ((GlueAPI.createdBy sent.calls).find? fun partition => partition.values = values) =
          partitions.find? fun partition => partition.values = values := by
      intro values missing
      cases wanted : partitions.find? fun partition => partition.values = values with
      | none =>
          rw [List.find?_eq_none] at wanted ⊢
          exact fun partition member => wanted partition ((created partition).mp member).1
      | some partition =>
          have own := List.mem_of_find?_eq_some wanted
          have same : partition.values = values := by simpa using List.find?_some wanted
          have made := (created partition).mpr ⟨own, same ▸ missing⟩
          cases here : (GlueAPI.createdBy sent.calls).find? fun partition => partition.values = values with
          | none => simpa [same] using List.find?_eq_none.mp here partition made
          | some other =>
              have otherSame : other.values = values := by simpa using List.find?_some here
              have otherOwn := ((created other).mp (List.mem_of_find?_eq_some here)).1
              rw [List.inj_on_of_nodup_map distinct otherOwn own (otherSame.trans same.symm)]
    have unmade : ∀ values, s.held.registered values →
        ((GlueAPI.createdBy sent.calls).find? fun partition => partition.values = values) = none := by
      intro values there
      rw [List.find?_eq_none]
      intro partition member
      have missing := ((created partition).mp member).2
      simp only [decide_eq_true_eq]
      intro same
      exact missing (same ▸ there)
    rw [PartitionedTable.foldl_add]
    unfold HeldTable.contents HeldTable.create
    simp only [PartitionedTable.mk.injEq, true_and]
    funext values
    cases there : s.held.partitions values with
    | some registered =>
        rw [unmade values (by rw [HeldTable.registered, there]; rfl)]
    | none =>
        rw [first values (by rw [HeldTable.registered, there]; exact Bool.false_ne_true)]
        cases partitions.find? fun partition => partition.values = values with
        | none => rfl
        | some partition =>
            simp only [Option.map_some, current]
            rfl

theorem batchDelete_truthful {erased : List (List Text)} :
    ∃ held moment, GlueRun.batchDeletePartitions server access schemaName tableName erased s = .ok () ⟨held, moment⟩ ∧
      held.table = s.held.table ∧ held.contents = erased.foldl PartitionedTable.erase s.held.contents := by
  obtain ⟨throttled, patient, answers⟩ := truthful.batchDeletePartition s.moment s.held
  obtain ⟨calls, ran, own, deleted⟩ :=
    @deletePartitions_truthful _ _ s.held _ _ erased schemaName tableName patient answers
  refine ⟨s.held.erase (deletedBy calls), s.moment + 1, ?_, rfl, ?_⟩
  · have nothing : (refusedBy id calls).filter (server.changedAnyway s.moment s.held) = [] := by
      rw [List.filter_eq_nil_iff]
      intro values _
      rw [truthful.unchanged]
      exact Bool.false_ne_true
    unfold GlueRun.batchDeletePartitions
    rw [checkWritable_ok writable, ran]
    dsimp only
    rw [nothing, List.append_nil]
  · rw [PartitionedTable.foldl_erase]
    unfold HeldTable.contents HeldTable.erase
    simp only [PartitionedTable.mk.injEq, true_and]
    funext values
    by_cases removed : values ∈ deletedBy calls
    · rw [if_pos removed, if_pos (own removed)]
    · rw [if_neg removed]
      split_ifs with wanted
      · by_contra there
        exact removed (deleted values wanted (Option.isSome_iff_ne_none.mpr there))
      · rfl

end Requests

end DuckGlue
