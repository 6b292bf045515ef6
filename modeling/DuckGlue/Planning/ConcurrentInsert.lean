import DuckGlue.Planning.InsertRegistration

/-! # An INSERT among other clients

Other clients create, drop and relocate partitions while an INSERT plans, writes and
registers its directories. What Glue holds at each moment is a history that any of them may
have made.
-/

namespace DuckGlue

open StringUtil Fallible BatchedRequests

/-- The locations registered at each moment. -/
abbrev RegistryHistory := ℕ → List Text → Option Text

/-- When Glue settled what it was asked: the values of a request to create, and those of a
request to look up. -/
structure Moments where
  registered : ℕ → List Text → ℕ
  looked : ℕ → List Text → ℕ
  finish : ℕ
  registeredFirst : ∀ n m values, registered n values ≤ looked m values
  lookedInTime : ∀ n values, looked n values ≤ finish

/-- The answers are of the history at those moments. -/
structure FinalizeAnswers.Tells (answers : FinalizeAnswers) (history : RegistryHistory) (moments : Moments) : Prop where
  created : ∀ n request errors partition, answers.create n request = .ok errors → partition ∈ request →
    (∀ error ∈ errors, error.values ≠ partition.values) →
    history (moments.registered n partition.values) partition.values = some partition.location
  located : ∀ n keys answer values location, answers.locate n keys = .ok answer → (values, location) ∈ answer.partitions →
    history (moments.looked n values) values = some location

namespace GlueAPI

section Calls

variable {table : GlueTableInfo} {injected : Option InjectedPartitionFailure}
  {glue : ℕ → List GluePartitionInput → PartitionAnswer} {batch attempt : ℕ} {pending : List IndexedPartition}
  {s s' : CreateState} {result : Except Exception (List (PartitionFailure IndexedPartition))}

/-- Request `n` created the partition, or was told that it exists. -/
def Processed (s : CreateState) (n : ℕ) (partition : GluePartitionInput) : Prop :=
  ∃ call errors, s.calls[n]? = some call ∧ call.answer = .ok errors ∧ partition ∈ call.request.map (·.1) ∧
    ((∀ error ∈ errors, error.values ≠ partition.values) ∨
      ∃ error ∈ errors, error.values = partition.values ∧ isAlreadyExists error = true)

/-- The calls are `glue`'s answers, and what is known to exist was in one of them. -/
structure Answered (glue : ℕ → List GluePartitionInput → PartitionAnswer) (s : CreateState) : Prop where
  answered : ∀ n call, s.calls[n]? = some call → call.answer = glue n (call.request.map (·.1))
  existed : ∀ partition ∈ s.alreadyExisting, ∃ n, Processed s n partition

theorem Answered.start : Answered glue {} where
  answered := by
    intro n call none
    cases none
  existed := by
    intro partition none
    cases none

/-- A call more. -/
theorem getElem?_calls {calls : List (Call IndexedPartition PartitionAnswer)} {call last : Call IndexedPartition PartitionAnswer}
    {n : ℕ} (here : (calls ++ [last])[n]? = some call) : calls[n]? = some call ∨ n = calls.length ∧ call = last := by
  rw [List.getElem?_append] at here
  split_ifs at here with earlier
  · exact .inl here
  · obtain ⟨inside, rfl⟩ := List.getElem?_eq_some_iff.mp here
    rw [List.length_singleton] at inside
    have index : n = calls.length := by omega
    subst index
    exact .inr ⟨rfl, by simp⟩

theorem Processed.mono {n : ℕ} {partition : GluePartitionInput} {more : List (Call IndexedPartition PartitionAnswer)}
    (processed : Processed s n partition) (calls : s'.calls = s.calls ++ more) : Processed s' n partition := by
  obtain ⟨call, errors, here, rest⟩ := processed
  refine ⟨call, errors, ?_, rest⟩
  rw [calls, List.getElem?_append_left (List.getElem?_eq_some_iff.mp here).1]
  exact here

theorem createAttempt_answered {failures : List (PartitionFailure IndexedPartition)}
    (made : createAttempt table injected glue batch attempt pending s = (s', .ok failures)) (answered : Answered glue s) :
    Answered glue s' := by
  rcases createAttempt_cases made with ⟨rfl, _⟩ | ⟨failing, call, requested⟩
  · exact answered
  · obtain ⟨errors, judged, answer, matched, existing, _⟩ := requested.answered failures rfl
    constructor
    · intro n other here
      rw [requested.calls] at here
      rcases getElem?_calls here with earlier | ⟨rfl, rfl⟩
      · exact answered.answered n other earlier
      · exact requested.answer
    · intro partition member
      rw [existing] at member
      rcases List.mem_append.mp member with earlier | new
      · obtain ⟨n, processed⟩ := answered.existed partition earlier
        exact ⟨n, processed.mono requested.calls⟩
      · obtain ⟨entry, inJudged, rfl⟩ := List.mem_map.mp new
        obtain ⟨inJudged, exists_⟩ := List.mem_filter.mp inJudged
        obtain ⟨error, inErrors, here⟩ := mem_of_mapM matched inJudged
        obtain ⟨inRequest, values, rfl⟩ := createError_ok here
        refine ⟨s.calls.length, call, errors, ?_, answer, List.mem_map.mpr ⟨_, inRequest, rfl⟩,
          .inr ⟨_, inErrors, values.symm, exists_⟩⟩
        rw [requested.calls]
        simp

/-- Every request is answered by Glue, and what is returned was told to exist. -/
theorem batchCreatePartitions_answered {writable : Except Exception Unit} {fetched : Bool}
    {partitions existing : List GluePartitionInput}
    (run : batchCreatePartitions table injected glue writable fetched partitions = (s, .ok existing)) : Answered glue s := by
  have keeps : (createService table injected glue).Keeps 4 (fun _ _ _ s => Answered glue s) (fun _ => True) :=
    ⟨fun _ made answered => createAttempt_answered made answered, fun _ _ _ => trivial⟩
  unfold batchCreatePartitions at run
  split at run
  · cases run
  · split_ifs at run
    · cases run
      exact .start
    · cases run
    · split at run
      · cases run
      · rename_i s' settled
        cases run
        have enter : ∀ {n : ℕ} {own : List IndexedPartition} {s : CreateState},
            (batches 100 partitions.zipIdx)[n]? = some own → Answered glue s → Answered glue s := fun _ between => between
        rcases Service.settleAll_keeps keeps (by decide) enter (fun inv => inv) settled .start with
          ⟨_, answered⟩ | ⟨⟨_, thrown⟩, _⟩
        · exact answered
        · cases thrown

theorem processed_of_created {partition : GluePartitionInput} (created : partition ∈ createdBy s.calls) :
    ∃ (n : ℕ) (call : Call IndexedPartition PartitionAnswer) (errors : List PartitionError), s.calls[n]? = some call ∧
      call.answer = .ok errors ∧ partition ∈ call.request.map (·.1) ∧ ∀ error ∈ errors, error.values ≠ partition.values := by
  obtain ⟨call, inCalls, here⟩ := List.mem_flatMap.mp created
  obtain ⟨n, at_⟩ := List.mem_iff_getElem?.mp inCalls
  cases answer : call.answer with
  | error failed =>
      rw [answer] at here
      cases here
  | ok errors =>
      rw [answer] at here
      obtain ⟨item, member, rfl⟩ := List.mem_map.mp here
      obtain ⟨inRequest, unnamed⟩ := List.mem_filter.mp member
      simp only [List.all_eq_true, decide_eq_true_eq] at unnamed
      exact ⟨n, call, errors, at_, answer, List.mem_map.mpr ⟨item, inRequest, rfl⟩, unnamed⟩

end Calls

section Looked

variable {databaseName tableName : Text} {glue : ℕ → List (List Text) → Except Exception LocationsAnswer}
  {partitions : List (List Text)} {fuel : ℕ}

/-- Each location was in an answer. -/
def Told (glue : ℕ → List (List Text) → Except Exception LocationsAnswer) (existing : Locations) : Prop :=
  ∀ values location, existing.lookup values = some location →
    ∃ n keys answer, glue n keys = .ok answer ∧ (values, location) ∈ answer.partitions

theorem told_emplace {existing : Locations} {n : ℕ} {keys : List (List Text)} {answer : LocationsAnswer}
    (answered : glue n keys = .ok answer) (told : Told glue existing) :
    Told glue (answer.partitions.foldl Locations.emplace existing) := by
  have run : ∀ (rest : List (List Text × Text)) (existing : Locations), (∀ entry ∈ rest, entry ∈ answer.partitions) →
      Told glue existing → Told glue (rest.foldl Locations.emplace existing) := by
    intro rest
    induction rest with
    | nil =>
        intro existing _ told
        exact told
    | cons entry rest ih =>
        intro existing among told
        obtain ⟨here, later⟩ := List.forall_mem_cons.mp among
        apply ih _ later
        intro values location found
        unfold Locations.emplace at found
        split_ifs at found with known
        · exact told values location found
        · by_cases same : values = entry.1
          · subst same
            rw [AList.lookup_insert] at found
            cases found
            exact ⟨n, keys, answer, answered, here⟩
          · rw [AList.lookup_insert_ne same] at found
            exact told values location found
  exact run answer.partitions existing (fun entry member => member) told

theorem partitionLocations_told {s : LocationsState} {existing : Locations}
    (shrinks : ∀ n keys answer, glue n keys = .ok answer → answer.unprocessed.length ≤ keys.length)
    (enough : 4 * partitions.length < fuel)
    (run : partitionLocations databaseName tableName glue fuel partitions = some (s, .ok existing)) : Told glue existing := by
  have keeps : (locationsSource databaseName tableName glue).Keeps 4 (fun _ _ _ s => Told glue s.existing)
      (fun _ _ => True) := by
    have step : ∀ {batch attempt : ℕ} {keys : List (List Text)} {s s' : LocationsState} {unprocessed : List (List Text)},
        (locationsSource databaseName tableName glue).ask batch attempt keys s = (s', .ok unprocessed) →
        unprocessed.length ≤ keys.length ∧ (Told glue s.existing → Told glue s'.existing) := by
      intro batch attempt keys s s' unprocessed asked
      rcases ask_cases asked with ⟨answer, answered, ok, rfl⟩ | ⟨failed, _, error, _⟩
      · cases ok
        exact ⟨shrinks _ _ _ answered, told_emplace answered⟩
      · cases error
    exact ⟨fun _ asked => (step asked).1, fun _ told asked _ => (step asked).2 told, fun _ _ told asked _ => (step asked).2 told,
      fun _ _ _ _ => trivial, fun _ _ => trivial⟩
  have start : Told glue ({} : LocationsState).existing := by
    intro values location none
    cases none
  have enter : ∀ {n : ℕ} {keys : List (List Text)} {s : LocationsState},
      (batches 1000 partitions)[n]? = some keys → Told glue s.existing → Told glue s.existing := fun _ told => told
  obtain ⟨s', result, drained, outcome⟩ := Draining.Source.drainAll_ends keeps (room_of_fuel enough) enter
    (fun told => told) start
  unfold partitionLocations at run
  rw [drained] at run
  rcases outcome with ⟨rfl, told⟩ | ⟨thrown, rfl, _⟩
  · cases run
    exact told
  · cases run

end Looked

end GlueAPI

namespace GlueHiveInsert

open GlueAPI

section Concurrent

variable {table : GlueTableInfo} {answers : FinalizeAnswers} {fuel : ℕ} {plannedLocations : List (List Text × Text)}
  {history : RegistryHistory} {moments : Moments}

/-- The partition is registered at a location, in other spelling perhaps, at some moment from
when Glue settled its registration to the end. -/
def ReadAt (history : RegistryHistory) (moments : Moments) (created : CreateState) (partition : GluePartitionInput)
    (location : Text) : Prop :=
  ∃ n, Processed created n partition ∧ ∃ moment current, moments.registered n partition.values ≤ moment ∧
    moment ≤ moments.finish ∧ history moment partition.values = some current ∧
    comparableLocation current = comparableLocation location

theorem ReadAt.congr {created : CreateState} {partition : GluePartitionInput} {location other : Text}
    (readAt : ReadAt history moments created partition location)
    (same : comparableLocation location = comparableLocation other) : ReadAt history moments created partition other := by
  obtain ⟨n, processed, moment, current, first, last, here, compared⟩ := readAt
  exact ⟨n, processed, moment, current, first, last, here, compared.trans same⟩

/-- What Glue created is at the directory it was created for. -/
theorem readAt_of_created {created : CreateState} {partition : GluePartitionInput} (tells : answers.Tells history moments)
    (answered : Answered answers.create created) (new : partition ∈ createdBy created.calls) :
    ReadAt history moments created partition partition.location := by
  obtain ⟨n, call, errors, at_, answer, inRequest, unnamed⟩ := processed_of_created new
  have glue := answered.answered n call at_
  rw [answer] at glue
  have here := tells.created n _ errors partition glue.symm inRequest unnamed
  have inTime : moments.registered n partition.values ≤ moments.finish :=
    (moments.registeredFirst n 0 _).trans (moments.lookedInTime 0 _)
  exact ⟨n, ⟨call, errors, at_, answer, inRequest, .inl unnamed⟩, _, _, Nat.le_refl _, inTime, here, rfl⟩

/-- What was looked up is where it was found then, after the registration. -/
theorem readAt_of_looked {created : CreateState} {located : Locations} {partition : GluePartitionInput} {location : Text}
    (tells : answers.Tells history moments) (answered : Answered answers.create created)
    (known : partition ∈ created.alreadyExisting) (told : Told answers.locate located)
    (found : located.lookup partition.values = some location) : ReadAt history moments created partition location := by
  obtain ⟨n, processed⟩ := answered.existed partition known
  obtain ⟨m, keys, answer, glue, member⟩ := told _ _ found
  exact ⟨n, processed, moments.looked m partition.values, location, moments.registeredFirst n m _, moments.lookedInTime m _,
    tells.located m keys answer _ _ glue member, rfl⟩

theorem checkRegistered_told {alreadyExisting : List GluePartitionInput} {located : Locations}
    {result : Except Exception Unit}
    (shrinks : ∀ n keys answer, answers.locate n keys = .ok answer → answer.unprocessed.length ≤ keys.length)
    (enough : 4 * alreadyExisting.length < fuel)
    (checked : checkRegistered table answers fuel plannedLocations alreadyExisting = some (located, result)) :
    Told answers.locate located := by
  have none : Told answers.locate (∅ : Locations) := by
    intro values location found
    cases found
  unfold checkRegistered at checked
  cases planned : alreadyExisting.forM (checkPlanned plannedLocations) with
  | error refused =>
      rw [planned] at checked
      cases checked
      exact none
  | ok passed =>
      rw [planned] at checked
      dsimp only at checked
      split_ifs at checked
      · cases checked
        exact none
      · have fewer : ((unplanned plannedLocations alreadyExisting).map (·.values)).length ≤ alreadyExisting.length := by
          rw [List.length_map]
          exact List.length_filter_le _ _
        split at checked
        · cases checked
        · cases checked
          exact none
        · rename_i looked
          cases checked
          exact partitionLocations_told shrinks (by omega) looked

/-- What is known where the registration goes through. -/
structure RegisteredAll (answers : FinalizeAnswers) (plannedLocations : List (List Text × Text))
    (toRegister : List GluePartitionInput) (created : CreateState) (located : Locations) : Prop where
  covers : ∀ partition ∈ toRegister, partition ∈ createdBy created.calls ∨ partition ∈ created.alreadyExisting
  answered : Answered answers.create created
  accepted : ∀ partition ∈ created.alreadyExisting, Accepted plannedLocations located.lookup partition
  told : Told answers.locate located

theorem register_all {toRegister : List GluePartitionInput} (distinct : (toRegister.map (·.values)).Nodup)
    (shrinks : ∀ n keys answer, answers.locate n keys = .ok answer → answer.unprocessed.length ≤ keys.length) :
    ∃ bound, ∀ fuel, bound < fuel → ∃ created located result,
      register table answers fuel plannedLocations toRegister = some (created, located, result) ∧
        (result = .ok () → RegisteredAll answers plannedLocations toRegister created located) := by
  unfold register
  cases registeredDefinition table answers with
  | error failed => exact ⟨0, fun fuel _ => ⟨_, _, _, rfl, fun ok => by cases ok⟩⟩
  | ok definition =>
      dsimp only
      cases ran : GlueAPI.batchCreatePartitions definition answers.injected answers.create answers.writable true
        toRegister with
      | mk created returned =>
          cases returned with
          | error failed => exact ⟨0, fun fuel _ => ⟨_, _, _, rfl, fun ok => by cases ok⟩⟩
          | ok alreadyExisting =>
              refine ⟨4 * alreadyExisting.length, fun fuel enough => ?_⟩
              obtain ⟨located, result, checked, accepts⟩ :=
                @checkRegistered_accepts table answers fuel plannedLocations alreadyExisting shrinks enough
              have told := checkRegistered_told shrinks enough checked
              obtain rfl := batchCreatePartitions_returned ran
              dsimp only
              rw [checked]
              exact ⟨_, _, _, rfl, fun ok =>
                ⟨batchCreatePartitions_covers distinct ran, batchCreatePartitions_answered ran, accepts ok, told⟩⟩

end Concurrent

section Run

variable {Value : Type} {hive : HivePartitioning} {casts : KeyCasts Value} {table : GlueTableInfo}
  {columns : List PartitionColumn} {isRelative : Text → Bool} {existing : Option (List GluePartitionInfo)}
  {path : PartitionPath Value} {rows : List (List (Option Value) × Text)} {files : List Text}
  {answers : FinalizeAnswers} {iterate : List GluePartitionInput → List GluePartitionInput} {history : RegistryHistory}
  {moments : Moments}

/-- An INSERT that succeeds among any other clients wrote where its partitions are read
exactly if each existing partition that it planned with still was where the plan saw it. One
that does not succeed is undone. -/
theorem finalizeRun_concurrent (written : Written hive casts table columns isRelative existing path rows files)
    (order : ∀ partitions, (iterate partitions).Perm partitions)
    (shrinks : ∀ n keys answer, answers.locate n keys = .ok answer → answer.unprocessed.length ≤ keys.length)
    (tells : answers.Tells history moments) :
    ∃ bound, ∀ fuel, bound < fuel → ∃ run, finalizeRun hive table answers fuel path iterate files = some run ∧
      (Undone table answers files run ∨ run.result = .ok () ∧ run.removed = none ∧
        ((∀ file ∈ files, ∃ partition, registration hive table path.partitionDirectories file = .ok partition ∧
            ReadAt history moments run.created partition partition.location) ↔
          ∀ file ∈ files, ∀ partition location, registration hive table path.partitionDirectories file = .ok partition →
            partition ∈ run.created.alreadyExisting → path.plannedLocations.lookup partition.values = some location →
            ReadAt history moments run.created partition location)) := by
  unfold finalizeRun
  split_ifs with nothing
  · rcases nothing with keyless | none
    · exact absurd keyless written.keyed
    · refine ⟨0, fun fuel _ => ⟨_, rfl, .inr ⟨rfl, rfl, ?_⟩⟩⟩
      rw [none]
      exact iff_of_true (fun file member => by cases member) (fun file member => by cases member)
  · obtain ⟨toRegister, registered, distinct, each⟩ := written.registrations
    have ordered : ((iterate toRegister).map (·.values)).Nodup := ((order toRegister).map _).nodup_iff.mpr distinct
    obtain ⟨bound, ends⟩ := @register_all table answers path.plannedLocations _ ordered shrinks
    refine ⟨bound, fun fuel enough => ?_⟩
    obtain ⟨created, located, result, tried, all⟩ := ends fuel enough
    rw [registered]
    dsimp only
    rw [tried]
    cases result with
    | error error =>
        dsimp only
        cases removed : answers.removeFiles files with
        | ok done => exact ⟨_, rfl, .inl ⟨rfl, error, .inl ⟨removed, rfl⟩⟩⟩
        | error removing => exact ⟨_, rfl, .inl ⟨rfl, error, .inr ⟨removing, removed, rfl⟩⟩⟩
    | ok done =>
        have all := all rfl
        refine ⟨_, rfl, .inr ⟨rfl, rfl, ?_⟩⟩
        dsimp only
        constructor
        · intro read file member partition location here known planned
          obtain ⟨_, same, readAt⟩ := read file member
          cases here.symm.trans same
          obtain ⟨seen, found, compared⟩ := all.accepted partition known
          rw [planned] at found
          cases found
          exact readAt.congr compared.symm
        · intro stays file member
          obtain ⟨partition, inside, here⟩ := each file member
          refine ⟨partition, here, ?_⟩
          rcases all.covers partition ((order toRegister).mem_iff.mpr inside) with new | known
          · exact readAt_of_created tells all.answered new
          · obtain ⟨seen, found, compared⟩ := all.accepted partition known
            cases planned : path.plannedLocations.lookup partition.values with
            | some location =>
                rw [planned] at found
                cases found
                exact (stays file member partition _ here known planned).congr compared
            | none =>
                rw [planned] at found
                exact (readAt_of_looked tells all.answered known all.told found).congr compared

/-- Where every day is registered by the time it is looked up. -/
def dayLocation (values : List Text) : Text := "s3://bucket/events/day=".toList ++ values.flatten

/-- Another client registers the sixth day before the INSERT does. -/
def racedDay : FinalizeAnswers where
  writable := .ok ()
  fetched := true
  getTable := .ok none
  injected := none
  create _ request := .ok ((request.filter fun partition =>
    partition.values = ["6".toList] || partition.location ≠ dayLocation partition.values).map fun partition =>
      ⟨partition.values, "AlreadyExistsException", []⟩)
  locate _ keys := .ok ⟨keys.map fun values => (values, dayLocation values), []⟩
  removeFiles _ := .ok ()

def dayHistory : RegistryHistory := fun _ values => some (dayLocation values)

def dayMoments : Moments where
  registered _ _ := 0
  looked _ _ := 1
  finish := 1
  registeredFirst _ _ _ := Nat.zero_le 1
  lookedInTime _ _ := Nat.le_refl 1

theorem racedDay_tells : racedDay.Tells dayHistory dayMoments where
  created := by
    intro n request errors partition answer inRequest unnamed
    cases answer
    by_contra elsewhere
    have differs : partition.location ≠ dayLocation partition.values := fun same => elsewhere (congrArg some same.symm)
    have refused : partition ∈ request.filter fun partition =>
        partition.values = ["6".toList] || partition.location ≠ dayLocation partition.values :=
      List.mem_filter.mpr ⟨inRequest, by simp [differs]⟩
    exact unnamed _ (List.mem_map.mpr ⟨partition, refused, rfl⟩) rfl
  located := by
    intro n keys answer values location given member
    cases given
    obtain ⟨key, _, same⟩ := List.mem_map.mp member
    cases same
    rfl

theorem finalizeRun_racedDay : ∃ fuel run, finalizeRun percentHive daysTable racedDay fuel daysPath id daysFiles = some run ∧
    (Undone daysTable racedDay daysFiles run ∨ run.result = .ok () ∧ run.removed = none ∧
      ((∀ file ∈ daysFiles, ∃ partition, registration percentHive daysTable daysPath.partitionDirectories file = .ok partition ∧
          ReadAt dayHistory dayMoments run.created partition partition.location) ↔
        ∀ file ∈ daysFiles, ∀ partition location,
          registration percentHive daysTable daysPath.partitionDirectories file = .ok partition →
          partition ∈ run.created.alreadyExisting → daysPath.plannedLocations.lookup partition.values = some location →
          ReadAt dayHistory dayMoments run.created partition location)) := by
  have shrinks : ∀ n keys answer, racedDay.locate n keys = .ok answer → answer.unprocessed.length ≤ keys.length := by
    intro n keys answer answered
    cases answered
    exact Nat.zero_le _
  obtain ⟨bound, ends⟩ := finalizeRun_concurrent daysWritten (fun partitions => .refl partitions) shrinks racedDay_tells
  exact ⟨bound + 1, ends (bound + 1) (Nat.lt_succ_self bound)⟩

end Run

end GlueHiveInsert

end DuckGlue
