import DuckGlue.Core.GlueInfo
import DuckGlue.Lib.Draining
import Mathlib.Data.List.AList
import Mathlib.Data.List.Count

/-! # Where partitions are registered

BatchGetPartition may leave some of the keys unprocessed. They are asked for again, and
only calls that process none count as failed attempts.
-/

namespace DuckGlue

open StringUtil BatchedRequests Draining

/-- The partitions of an answer with their locations, and the keys left. -/
structure LocationsAnswer where
  partitions : List (List Text × Text)
  unprocessed : List (List Text)
  deriving Repr, DecidableEq

/-- Locations by partition values. -/
abbrev Locations := AList fun _ : List Text => Text

namespace Locations

def emplace (existing : Locations) (partition : List Text × Text) : Locations :=
  if partition.1 ∈ existing then existing else existing.insert partition.1 partition.2

theorem lookup_emplace {existing : Locations} {registered : List Text → Option Text} {found : List Text → Prop}
    {partition : List Text × Text} (here : registered partition.1 = some partition.2)
    (recorded : ∀ values location, existing.lookup values = some location ↔
      found values ∧ registered values = some location) (values : List Text) (location : Text) :
    (existing.emplace partition).lookup values = some location ↔
      (found values ∨ values = partition.1) ∧ registered values = some location := by
  unfold emplace
  by_cases same : values = partition.1
  · subst same
    split_ifs with present
    · obtain ⟨old, old_eq⟩ := Option.isSome_iff_exists.mp (AList.lookup_isSome.mpr present)
      have known := (recorded _ _).mp old_eq
      constructor
      · intro hit
        exact ⟨.inr rfl, ((recorded _ _).mp hit).2⟩
      · intro hit
        exact (recorded _ _).mpr ⟨known.1, hit.2⟩
    · rw [AList.lookup_insert, here]
      constructor
      · intro hit
        exact ⟨.inr rfl, hit⟩
      · intro hit
        exact hit.2
  · have other : (existing.insert partition.1 partition.2).lookup values = existing.lookup values :=
      AList.lookup_insert_ne same
    split_ifs
    · rw [recorded]
      simp only [same, or_false]
    · rw [other, recorded]
      simp only [same, or_false]

/-- The partitions of an answer, each with its registered location. -/
theorem lookup_foldl_emplace {registered : List Text → Option Text} {partitions : List (List Text × Text)}
    (here : ∀ partition ∈ partitions, registered partition.1 = some partition.2) {existing : Locations}
    {found : List Text → Prop} (recorded : ∀ values location, existing.lookup values = some location ↔
      found values ∧ registered values = some location) (values : List Text) (location : Text) :
    (partitions.foldl emplace existing).lookup values = some location ↔
      (found values ∨ values ∈ partitions.map (·.1)) ∧ registered values = some location := by
  induction partitions generalizing existing found with
  | nil =>
      rw [List.foldl_nil, recorded]
      simp only [List.map_nil, List.not_mem_nil, or_false]
  | cons partition partitions ih =>
      rw [List.foldl_cons, ih (fun other member => here other (List.mem_cons_of_mem _ member))
        (lookup_emplace (here partition List.mem_cons_self) recorded)]
      simp only [List.map_cons, List.mem_cons, or_assoc]

end Locations

namespace GlueAPI

structure LocationsState where
  calls : List (Call (List Text) (Except Exception LocationsAnswer)) := []
  existing : Locations := ∅

section PartitionLocations

variable (databaseName tableName : Text) (glue : ℕ → List (List Text) → Except Exception LocationsAnswer)

/-- `glue` answers by the number of the request. -/
def locationsSource : Source (List Text) LocationsState Exception where
  ask batch attempt keys s :=
    let answer := glue s.calls.length keys
    let calls := s.calls ++ [⟨batch, attempt, keys, answer⟩]
    match answer with
    | .error failed => ({ s with calls := calls }, .error failed)
    | .ok answer => (⟨calls, answer.partitions.foldl Locations.emplace s.existing⟩, .ok answer.unprocessed)
  giveUp keys := .io ("Glue BatchGetPartition '" ++ databaseName ++ "." ++ tableName ++ "' left " ++
    (toString keys.length).toList ++ " partitions unprocessed after 4 attempts")

/-- `PartitionLocations`, with the requests it made; without a result where the fuel of a
batch runs out. -/
def partitionLocations (fuel : ℕ) (partitions : List (List Text)) :
    Option (LocationsState × Except Exception Locations) :=
  match (locationsSource databaseName tableName glue).drainAll 4 fuel 0 (batches 1000 partitions) {} with
  | none => none
  | some (s, .error thrown) => some (s, .error thrown)
  | some (s, .ok ()) => some (s, .ok s.existing)

end PartitionLocations

/-- The keys an answer leaves are among those sent, and its partitions are the registered
ones among the others. -/
structure Answers (registered : List Text → Option Text) (keys : List (List Text)) (answer : LocationsAnswer) : Prop where
  unprocessed : answer.unprocessed.Subperm keys
  partitions : ∀ values location, (values, location) ∈ answer.partitions ↔
    values ∈ keys.diff answer.unprocessed ∧ registered values = some location

/-- A call that processed nothing of what it sent. -/
def processedNothing (call : Call (List Text) (Except Exception LocationsAnswer)) : Prop :=
  ∃ answer, call.answer = .ok answer ∧ answer.unprocessed.Perm call.request

section Exact

variable {databaseName tableName : Text} {glue : ℕ → List (List Text) → Except Exception LocationsAnswer}
  {registered : List Text → Option Text} {partitions processed keys : List (List Text)} {batch attempt : ℕ}
  {s s' : LocationsState}

/-- The calls so far are `glue`'s answers, each for at most so many keys. -/
structure Asked (glue : ℕ → List (List Text) → Except Exception LocationsAnswer)
    (calls : List (Call (List Text) (Except Exception LocationsAnswer))) : Prop where
  answered : ∀ n call, calls[n]? = some call → call.answer = glue n call.request
  small : ∀ call ∈ calls, call.request.length ≤ 1000

/-- The last calls of a batch, which processed nothing. -/
def Stuck (batch attempt : ℕ) (keys : List (List Text))
    (calls : List (Call (List Text) (Except Exception LocationsAnswer))) : Prop :=
  ∃ before last, calls = before ++ last ∧ last.length = attempt ∧
    ∀ call ∈ last, call.batch = batch ∧ call.request.Perm keys ∧ processedNothing call

/-- What was processed is recorded, and each call so far cost a key or an attempt. -/
structure Recorded (glue : ℕ → List (List Text) → Except Exception LocationsAnswer)
    (registered : List Text → Option Text) (processed : List (List Text)) (attempt : ℕ) (s : LocationsState) :
    Prop extends Asked glue s.calls where
  recorded : ∀ values location, s.existing.lookup values = some location ↔
    values ∈ processed ∧ registered values = some location
  cost : s.calls.length ≤ 4 * processed.length + attempt

/-- The keys left of a batch, after those processed of it and of the batches before. -/
structure Locating (glue : ℕ → List (List Text) → Except Exception LocationsAnswer)
    (registered : List Text → Option Text) (partitions : List (List Text)) (batch attempt : ℕ)
    (keys : List (List Text)) (s : LocationsState) (processed : List (List Text)) : Prop
    extends Recorded glue registered processed attempt s where
  split : (processed ++ keys).Perm ((batches 1000 partitions).take (batch + 1)).flatten
  room : keys.length ≤ 1000
  fresh : keys = [] → attempt = 0
  stuck : Stuck batch attempt keys s.calls

/-- Where `PartitionLocations` throws: four calls of one batch in a row processed nothing,
or a request failed. -/
def Refused (databaseName tableName : Text) (glue : ℕ → List (List Text) → Except Exception LocationsAnswer)
    (calls : List (Call (List Text) (Except Exception LocationsAnswer))) (thrown : Exception) : Prop :=
  (∃ batch keys, keys ≠ [] ∧ thrown = (locationsSource databaseName tableName glue).giveUp keys ∧ Stuck batch 4 keys calls) ∨
    ∃ before call, calls = before ++ [call] ∧ call.answer = .error thrown

theorem Asked.append (asked : Asked glue s.calls) (room : keys.length ≤ 1000) :
    Asked glue (s.calls ++ [⟨batch, attempt, keys, glue s.calls.length keys⟩]) where
  answered := by
    intro n call here
    rw [List.getElem?_append] at here
    split_ifs at here with earlier
    · exact asked.answered n call here
    · obtain ⟨inside, rfl⟩ := List.getElem?_eq_some_iff.mp here
      rw [List.length_singleton] at inside
      have last : n = s.calls.length := by omega
      subst last
      simp only [Nat.sub_self, List.getElem_cons_zero]
  small := by
    intro call member
    rcases List.mem_append.mp member with earlier | this
    · exact asked.small call earlier
    · rw [List.mem_singleton.mp this]
      exact room

/-- What one answer does. -/
theorem ask_ok {answer : LocationsAnswer} (answered : glue s.calls.length keys = .ok answer) :
    (locationsSource databaseName tableName glue).ask batch attempt keys s =
      (⟨s.calls ++ [⟨batch, attempt, keys, .ok answer⟩], answer.partitions.foldl Locations.emplace s.existing⟩,
        .ok answer.unprocessed) := by
  simp only [locationsSource, answered]

theorem ask_error {failed : Exception} (answered : glue s.calls.length keys = .error failed) :
    (locationsSource databaseName tableName glue).ask batch attempt keys s =
      ({ s with calls := s.calls ++ [⟨batch, attempt, keys, .error failed⟩] }, .error failed) := by
  simp only [locationsSource, answered]

theorem ask_cases {result : Except Exception (List (List Text))}
    (asked : (locationsSource databaseName tableName glue).ask batch attempt keys s = (s', result)) :
    (∃ answer, glue s.calls.length keys = .ok answer ∧ result = .ok answer.unprocessed ∧
      s' = ⟨s.calls ++ [⟨batch, attempt, keys, .ok answer⟩], answer.partitions.foldl Locations.emplace s.existing⟩) ∨
    (∃ failed, glue s.calls.length keys = .error failed ∧ result = .error failed ∧
      s' = { s with calls := s.calls ++ [⟨batch, attempt, keys, .error failed⟩] }) := by
  cases answered : glue s.calls.length keys with
  | ok answer =>
      rw [ask_ok answered] at asked
      cases asked
      exact .inl ⟨answer, rfl, rfl, rfl⟩
  | error failed =>
      rw [ask_error answered] at asked
      cases asked
      exact .inr ⟨failed, rfl, rfl, rfl⟩

theorem room_of_fuel {fuel : ℕ} (enough : 4 * partitions.length < fuel) :
    ∀ keys ∈ batches 1000 partitions, 4 * keys.length < fuel := by
  intro keys member
  have all : (batches 1000 partitions).flatten = partitions := batches_flatten (by decide)
  have part := (List.sublist_flatten_of_mem member).length_le
  rw [all] at part
  omega

/-- The requests end where no answer leaves more keys than it was asked for. -/
theorem partitionLocations_ends {fuel : ℕ}
    (shrinks : ∀ n keys answer, glue n keys = .ok answer → answer.unprocessed.length ≤ keys.length)
    (enough : 4 * partitions.length < fuel) :
    ∃ s result, partitionLocations databaseName tableName glue fuel partitions = some (s, result) := by
  have keeps : (locationsSource databaseName tableName glue).Keeps 4 (fun _ _ _ _ => True) (fun _ _ => True) := by
    constructor
    · intro batch attempt keys s s' unprocessed _ asked
      rcases ask_cases asked with ⟨answer, answered, ok, _⟩ | ⟨failed, answered, error, _⟩
      · cases ok
        exact shrinks _ _ _ answered
      · cases error
    · intros
      trivial
    · intros
      trivial
    · intros
      trivial
    · intros
      trivial
  obtain ⟨s, result, drained, -⟩ := @Source.drainAll_ends _ _ _ _ _ _ _ _ {} keeps (fun _ _ => True) _
    (room_of_fuel enough) (fun {_ _ _} _ _ => trivial) (fun {_ _ _} _ => trivial) trivial
  unfold partitionLocations
  rw [drained]
  cases result with
  | error thrown => exact ⟨s, _, rfl⟩
  | ok _ => exact ⟨s, _, rfl⟩

/-- The keys processed by an answer, and those it leaves. -/
theorem Answers.split {answer : LocationsAnswer} (answers : Answers registered keys answer) :
    (answer.unprocessed ++ keys.diff answer.unprocessed).Perm keys :=
  List.subperm_append_diff_self_of_count_le (List.subperm_ext_iff.mp answers.unprocessed)

theorem Recorded.next {answer : LocationsAnswer} (recorded : Recorded glue registered processed attempt s)
    (room : keys.length ≤ 1000) (answered : glue s.calls.length keys = .ok answer)
    (answers : Answers registered keys answer) {attempt' : ℕ}
    (cost : s.calls.length + 1 ≤ 4 * (processed ++ keys.diff answer.unprocessed).length + attempt') :
    Recorded glue registered (processed ++ keys.diff answer.unprocessed) attempt'
      ⟨s.calls ++ [⟨batch, attempt, keys, .ok answer⟩], answer.partitions.foldl Locations.emplace s.existing⟩ where
  toAsked := by
    rw [← answered]
    exact recorded.toAsked.append room
  recorded := by
    intro values location
    have here : ∀ partition ∈ answer.partitions, registered partition.1 = some partition.2 :=
      fun partition member => ((answers.partitions _ _).mp member).2
    rw [Locations.lookup_foldl_emplace here recorded.recorded]
    constructor
    · rintro ⟨old | new, known⟩
      · exact ⟨List.mem_append_left _ old, known⟩
      · obtain ⟨partition, member, rfl⟩ := List.mem_map.mp new
        exact ⟨List.mem_append_right _ ((answers.partitions _ _).mp member).1, known⟩
    · rintro ⟨member, known⟩
      rcases List.mem_append.mp member with old | new
      · exact ⟨.inl old, known⟩
      · exact ⟨.inr (List.mem_map.mpr ⟨_, (answers.partitions _ _).mpr ⟨new, known⟩, rfl⟩), known⟩
  cost := by
    rw [List.length_append, List.length_singleton]
    exact cost

theorem Locating.split_next {answer : LocationsAnswer}
    (locating : Locating glue registered partitions batch attempt keys s processed)
    (answers : Answers registered keys answer) :
    ((processed ++ keys.diff answer.unprocessed) ++ answer.unprocessed).Perm
      ((batches 1000 partitions).take (batch + 1)).flatten := by
  rw [List.append_assoc]
  exact ((List.perm_append_comm.trans answers.split).append_left _).trans locating.split

/-- A call that processed a key. -/
theorem Locating.progress {answer : LocationsAnswer}
    (locating : Locating glue registered partitions batch attempt keys s processed) (left : attempt < 4)
    (answered : glue s.calls.length keys = .ok answer) (answers : Answers registered keys answer)
    (fewer : answer.unprocessed.length < keys.length) :
    Locating glue registered partitions batch 0 answer.unprocessed
      ⟨s.calls ++ [⟨batch, attempt, keys, .ok answer⟩], answer.partitions.foldl Locations.emplace s.existing⟩
      (processed ++ keys.diff answer.unprocessed) where
  toRecorded := by
    apply locating.toRecorded.next locating.room answered answers
    have lengths := answers.split.length_eq
    have cost := locating.cost
    rw [List.length_append] at lengths ⊢
    omega
  split := locating.split_next answers
  room := by
    have room := locating.room
    omega
  fresh := fun _ => rfl
  stuck := ⟨_, [], (List.append_nil _).symm, rfl, fun _ none => by cases none⟩

/-- A call that processed none. -/
theorem Locating.stuck_next {answer : LocationsAnswer}
    (locating : Locating glue registered partitions batch attempt keys s processed) (some : keys ≠ [])
    (answered : glue s.calls.length keys = .ok answer) (answers : Answers registered keys answer)
    (same : answer.unprocessed.length = keys.length) :
    Locating glue registered partitions batch (attempt + 1) answer.unprocessed
      ⟨s.calls ++ [⟨batch, attempt, keys, .ok answer⟩], answer.partitions.foldl Locations.emplace s.existing⟩
      (processed ++ keys.diff answer.unprocessed) where
  toRecorded := by
    apply locating.toRecorded.next locating.room answered answers
    have cost := locating.cost
    rw [List.length_append]
    omega
  split := locating.split_next answers
  room := by
    rw [same]
    exact locating.room
  fresh := by
    intro none
    rw [none] at same
    exact absurd (List.length_eq_zero_iff.mp same.symm) some
  stuck := by
    have nothing : answer.unprocessed.Perm keys := answers.unprocessed.perm_of_length_le (Nat.le_of_eq same.symm)
    obtain ⟨before, last, split, length, each⟩ := locating.stuck
    refine ⟨before, last ++ [⟨batch, attempt, keys, .ok answer⟩], ?_, ?_, ?_⟩
    · rw [split, List.append_assoc]
    · rw [List.length_append, length, List.length_singleton]
    · intro call member
      rcases List.mem_append.mp member with earlier | this
      · obtain ⟨own, request, processedNone⟩ := each call earlier
        exact ⟨own, request.trans nothing.symm, processedNone⟩
      · rw [List.mem_singleton.mp this]
        exact ⟨rfl, nothing.symm, answer, rfl, nothing⟩

theorem flatten_take_length (partitions : List (List Text)) (n : ℕ) :
    ((batches 1000 partitions).take n).flatten.length ≤ partitions.length := by
  have all : (batches 1000 partitions).flatten = partitions := batches_flatten (by decide)
  have split := congrArg List.length (congrArg List.flatten (List.take_append_drop n (batches 1000 partitions)))
  rw [List.flatten_append, List.length_append, all] at split
  omega

/-- What is left of a batch is among the partitions asked for. -/
theorem Locating.length_le (locating : Locating glue registered partitions batch attempt keys s processed) :
    processed.length + keys.length ≤ partitions.length := by
  have lengths := locating.split.length_eq
  have bound := flatten_take_length partitions (batch + 1)
  rw [List.length_append] at lengths
  omega

/-- What holds where `PartitionLocations` throws. -/
def Thrown (databaseName tableName : Text) (glue : ℕ → List (List Text) → Except Exception LocationsAnswer)
    (partitions : List (List Text)) (s : LocationsState) (thrown : Exception) : Prop :=
  (Asked glue s.calls ∧ s.calls.length ≤ 4 * partitions.length) ∧ Refused databaseName tableName glue s.calls thrown

theorem locating_keeps (answers : ∀ n keys answer, glue n keys = .ok answer → Answers registered keys answer) :
    (locationsSource databaseName tableName glue).Keeps 4
      (fun batch attempt keys s => ∃ processed, Locating glue registered partitions batch attempt keys s processed)
      (Thrown databaseName tableName glue partitions) where
  shrinks := by
    rintro batch attempt keys s s' unprocessed - asked
    rcases ask_cases asked with ⟨answer, answered, ok, rfl⟩ | ⟨failed, answered, error, rfl⟩
    · cases ok
      exact (answers _ _ _ answered).unprocessed.length_le
    · cases error
  progress := by
    rintro batch attempt keys s s' unprocessed left ⟨processed, locating⟩ asked fewer
    rcases ask_cases asked with ⟨answer, answered, ok, rfl⟩ | ⟨failed, answered, error, rfl⟩
    · cases ok
      exact ⟨_, locating.progress left answered (answers _ _ _ answered) fewer⟩
    · cases error
  stuck := by
    rintro batch attempt keys s s' unprocessed some left ⟨processed, locating⟩ asked same
    rcases ask_cases asked with ⟨answer, answered, ok, rfl⟩ | ⟨failed, answered, error, rfl⟩
    · cases ok
      exact ⟨_, locating.stuck_next some answered (answers _ _ _ answered) same⟩
    · cases error
  failed := by
    rintro batch attempt keys s s' e some left ⟨processed, locating⟩ asked
    rcases ask_cases asked with ⟨answer, answered, ok, rfl⟩ | ⟨failed, answered, error, rfl⟩
    · cases ok
    · cases error
      refine ⟨⟨?_, ?_⟩, .inr ⟨_, _, rfl, rfl⟩⟩
      · rw [← answered]
        exact locating.toAsked.append locating.room
      · have positive := List.length_pos_of_ne_nil some
        have cost := locating.cost
        have bound := locating.length_le
        rw [List.length_append, List.length_singleton]
        omega
  givesUp := by
    rintro batch keys s some ⟨processed, locating⟩
    refine ⟨⟨locating.toAsked, ?_⟩, .inl ⟨batch, keys, some, rfl, locating.stuck⟩⟩
    have positive := List.length_pos_of_ne_nil some
    have cost := locating.cost
    have bound := locating.length_le
    omega

/-- Between two batches. -/
def Located (glue : ℕ → List (List Text) → Except Exception LocationsAnswer) (registered : List Text → Option Text)
    (partitions : List (List Text)) (batch : ℕ) (s : LocationsState) : Prop :=
  ∃ processed, Recorded glue registered processed 0 s ∧ processed.Perm ((batches 1000 partitions).take batch).flatten

theorem Located.start : Located glue registered partitions 0 {} := by
  refine ⟨[], ⟨⟨?_, ?_⟩, ?_, Nat.zero_le _⟩, .refl _⟩
  · intro n call none
    cases none
  · intro call none
    cases none
  · intro values location
    constructor
    · intro none
      cases none
    · rintro ⟨none, _⟩
      cases none

theorem Located.enter (located : Located glue registered partitions batch s)
    (own : (batches 1000 partitions)[batch]? = some keys) :
    ∃ processed, Locating glue registered partitions batch 0 keys s processed := by
  obtain ⟨processed, recorded, done⟩ := located
  refine ⟨processed, recorded, ?_, length_of_mem_batches (List.mem_of_getElem? own), fun _ => rfl,
    s.calls, [], (List.append_nil _).symm, rfl, fun _ none => by cases none⟩
  have last : (some keys).toList.flatten = keys := List.append_nil keys
  rw [List.take_add_one, own, List.flatten_append, last]
  exact done.append_right keys

theorem Locating.leave (locating : Locating glue registered partitions batch attempt [] s processed) :
    Located glue registered partitions (batch + 1) s := by
  have split := locating.split
  have recorded := locating.toRecorded
  rw [List.append_nil] at split
  rw [locating.fresh rfl] at recorded
  exact ⟨processed, recorded, split⟩

/-- The requests end, and the result is what is registered. -/
theorem partitionLocations_exact {fuel : ℕ}
    (answers : ∀ n keys answer, glue n keys = .ok answer → Answers registered keys answer)
    (enough : 4 * partitions.length < fuel) :
    ∃ s result, partitionLocations databaseName tableName glue fuel partitions = some (s, result) ∧
      (Asked glue s.calls ∧ s.calls.length ≤ 4 * partitions.length) ∧
      ((∃ existing, result = .ok existing ∧ ∀ values location, existing.lookup values = some location ↔
          values ∈ partitions ∧ registered values = some location) ∨
        ∃ thrown, result = .error thrown ∧ Refused databaseName tableName glue s.calls thrown) := by
  have all : (batches 1000 partitions).flatten = partitions := batches_flatten (by decide)
  have room := room_of_fuel enough
  have keeps : (locationsSource databaseName tableName glue).Keeps 4
      (fun batch attempt keys s => ∃ processed, Locating glue registered partitions batch attempt keys s processed)
      (Thrown databaseName tableName glue partitions) := locating_keeps answers
  have start : Located glue registered partitions 0 {} := .start
  obtain ⟨s, result, drained, outcome⟩ := Source.drainAll_ends keeps room
    (fun own located => Located.enter located own) (fun ⟨_, locating⟩ => Locating.leave locating) start
  unfold partitionLocations
  rw [drained]
  rcases outcome with ⟨rfl, processed, recorded, done⟩ | ⟨thrown, rfl, asked, refused⟩
  · rw [List.take_length, all] at done
    refine ⟨s, _, rfl, ⟨recorded.toAsked, ?_⟩, .inl ⟨s.existing, rfl, ?_⟩⟩
    · have cost := recorded.cost
      rw [done.length_eq] at cost
      omega
    · intro values location
      rw [recorded.recorded, done.mem_iff]
  · exact ⟨s, _, rfl, asked, .inr ⟨thrown, rfl, refused⟩⟩

/-- One key is left the first time. -/
def halfAnswered (n : ℕ) (keys : List (List Text)) : Except Exception LocationsAnswer :=
  let left := if n = 0 then keys.drop 1 else []
  .ok ⟨(keys.diff left).map fun values => (values, "t/day=".toList ++ values.flatten), left⟩

theorem partitionLocations_exact_two : ∃ s, ∃ existing : Locations,
    partitionLocations "db" "events" halfAnswered 9 [["5"], ["6"]] = some (s, .ok existing) ∧ s.calls.length = 2 ∧
      ∀ values location, existing.lookup values = some location ↔
        values ∈ [["5".toList], ["6".toList]] ∧ some ("t/day=".toList ++ values.flatten) = some location := by
  have answers : ∀ n keys answer, halfAnswered n keys = .ok answer →
      Answers (fun values => some ("t/day=".toList ++ values.flatten)) keys answer := by
    intro n keys answer answered
    cases answered
    constructor
    · dsimp only
      split_ifs
      · exact (List.drop_sublist 1 keys).subperm
      · exact List.nil_subperm
    · intro values location
      simp only [List.mem_map, Prod.mk.injEq, Option.some.injEq]
      constructor
      · rintro ⟨_, member, rfl, rfl⟩
        exact ⟨member, rfl⟩
      · rintro ⟨member, rfl⟩
        exact ⟨values, member, rfl, rfl⟩
  obtain ⟨s, result, ran, _, outcome⟩ :=
    @partitionLocations_exact "db" "events" halfAnswered _ [["5"], ["6"]] 9 answers (by decide)
  have here : partitionLocations "db" "events" halfAnswered 9 [["5"], ["6"]] = some (_, .ok _) := rfl
  rw [here] at ran
  cases ran
  rcases outcome with ⟨existing, ok, exact⟩ | ⟨_, error, _⟩
  · cases ok
    exact ⟨_, _, here, rfl, exact⟩
  · cases error

end Exact

end GlueAPI

end DuckGlue
