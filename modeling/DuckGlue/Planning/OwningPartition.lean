import DuckGlue.Lib.Fallible
import DuckGlue.Planning.HiveMultiFileList

/-! # The partition that owns a file

A registered location holds every file below it. The owner of a file is the first
partition registered at the deepest such location, however the walk up the file's
directories is bounded, and a listing of that location finds the file.
-/

namespace DuckGlue

open StringUtil Fallible

namespace HiveListing

variable {env : HiveListing} {index owner : env.Index} {location path : Text} {reading : List env.Index}

/-- The deepest registered location that holds the compared path. -/
structure IsDeepest (env : HiveListing) (path location : Text) : Prop where
  registered : ∃ index, env.locationOf index = location
  nonempty : location ≠ []
  holds : Holds location path
  deepest : ∀ index, env.locationOf index ≠ [] → Holds (env.locationOf index) path →
    (env.locationOf index).length ≤ location.length

/-- No partition is registered at the location before this one. -/
def IsFirst (env : HiveListing) (index : env.Index) : Prop :=
  ∀ other < index, env.locationOf other ≠ env.locationOf index

/-- Another partition is registered at the location as well. -/
def IsShared (env : HiveListing) (index : env.Index) : Prop :=
  ∃ other, other ≠ index ∧ env.locationOf other = env.locationOf index

theorem IsDeepest.unique {other : Text} (one : env.IsDeepest path location) (two : env.IsDeepest path other) :
    location = other := by
  obtain ⟨index, rfl⟩ := one.registered
  obtain ⟨index', rfl⟩ := two.registered
  have le := two.deepest index one.nonempty one.holds
  have ge := one.deepest index' two.nonempty two.holds
  exact Segments.Below.eq_of_length one.holds two.holds (by omega)

theorem partitionByLocation_eq_some : env.partitionByLocation location = some index ↔
    location ≠ [] ∧ env.locationOf index = location ∧ env.IsFirst index := by
  unfold partitionByLocation
  by_cases empty : location = []
  · simp [empty]
  · simp only [empty, if_false, List.find?_eq_some_iff_getElem, decide_eq_true_eq, ne_eq, not_false_eq_true, true_and]
    refine and_congr_right fun here => ?_
    unfold IsFirst
    refine ⟨?_, ?_⟩
    · intro found
      obtain ⟨position, inside, rfl, earlier⟩ := found
      intro other before
      have := earlier other.val (by simpa [Fin.lt_def] using before)
      simp only [List.getElem_finRange, Bool.not_eq_true', decide_eq_false_iff_not] at this
      rw [here]
      exact this
    · intro first
      refine ⟨index.val, by simp, by simp, fun position before => ?_⟩
      have := first ⟨position, by omega⟩ before
      simpa [here] using this

theorem partitionByLocation_eq_none : env.partitionByLocation location = none ↔
    location = [] ∨ ∀ index, env.locationOf index ≠ location := by
  unfold partitionByLocation
  by_cases empty : location = []
  · simp [empty]
  · simp [empty]

/-- Some partition is the first at every registered location. -/
theorem exists_first (index : env.Index) (nonempty : env.locationOf index ≠ []) :
    ∃ first, env.partitionByLocation (env.locationOf index) = some first := by
  cases found : env.partitionByLocation (env.locationOf index) with
  | some first => exact ⟨first, rfl⟩
  | none =>
      obtain empty | nowhere := partitionByLocation_eq_none.mp found
      · exact absurd empty nonempty
      · exact absurd rfl (nowhere index)

theorem exists_firstAt (index : env.Index) (nonempty : env.locationOf index ≠ []) :
    ∃ first, env.locationOf first = env.locationOf index ∧ env.IsFirst first := by
  obtain ⟨first, known⟩ := exists_first index nonempty
  obtain ⟨-, same, isFirst⟩ := partitionByLocation_eq_some.mp known
  exact ⟨first, same, isFirst⟩

theorem IsShared.congr (shared : env.IsShared owner) (same : env.locationOf index = env.locationOf owner) :
    env.IsShared index := by
  by_cases equal : index = owner
  · exact equal ▸ shared
  · exact ⟨owner, fun h => equal h.symm, same.symm⟩

/-- The walk up the directories finds the first partition of the deepest location,
when that is not above the bound. -/
theorem owningPartition_eq_some {filePath : Text} {minDirectorySize : Nat} :
    env.owningPartition filePath minDirectorySize = some owner ↔
      env.IsDeepest (comparableLocation filePath) (env.locationOf owner) ∧ env.IsFirst owner ∧
        minDirectorySize ≤ (env.locationOf owner).length := by
  unfold owningPartition
  rw [Segments.deepest_eq_some_iff]
  refine ⟨?_, ?_⟩
  · intro found
    obtain ⟨directory, below, long, known, unknown⟩ := found
    obtain ⟨nonempty, rfl, first⟩ := partitionByLocation_eq_some.mp known
    refine ⟨⟨⟨owner, rfl⟩, nonempty, below, fun index some holds => ?_⟩, first, long⟩
    by_contra longer
    have missing := unknown _ holds (by omega)
    obtain empty | nowhere := partitionByLocation_eq_none.mp missing
    · exact some empty
    · exact nowhere index rfl
  · intro h
    obtain ⟨deepest, first, long⟩ := h
    refine ⟨_, deepest.holds, long, partitionByLocation_eq_some.mpr ⟨deepest.nonempty, rfl, first⟩, ?_⟩
    intro directory below longer
    rw [partitionByLocation_eq_none]
    by_contra known
    push Not at known
    obtain ⟨nonempty, index, here⟩ := known
    have := deepest.deepest index (here ▸ nonempty) (here ▸ below)
    rw [here] at this
    omega

theorem owningPartition_zero {filePath : Text} {bound : Nat}
    (owned : env.owningPartition filePath bound = some owner) : env.owningPartition filePath 0 = some owner := by
  obtain ⟨deepest, first, -⟩ := owningPartition_eq_some.mp owned
  exact owningPartition_eq_some.mpr ⟨deepest, first, Nat.zero_le _⟩

/-- Below a registered location every file has an owner, no higher than that. -/
theorem exists_owner (nonempty : env.locationOf index ≠ []) (holds : Holds (env.locationOf index) (comparableLocation path)) :
    ∃ owner, env.owningPartition path (env.locationOf index).length = some owner := by
  cases found : env.owningPartition path (env.locationOf index).length with
  | some owner => exact ⟨owner, rfl⟩
  | none =>
      unfold owningPartition at found
      have missing := Segments.deepest_eq_none_iff.mp found _ holds le_rfl
      obtain ⟨first, known⟩ := exists_first index nonempty
      rw [known] at missing
      exact absurd missing (by simp)

@[simp] theorem mem_sharing {other : env.Index} :
    other ∈ env.sharing index ↔ env.locationOf other = env.locationOf index := by
  simp [sharing]

theorem one_lt_sharing : 1 < (env.sharing index).length ↔ env.IsShared index := by
  have nodup : (env.sharing index).Nodup := (List.nodup_finRange _).filter _
  have here : index ∈ env.sharing index := mem_sharing.mpr rfl
  refine ⟨?_, ?_⟩
  · intro several
    by_contra alone
    have only : env.sharing index ⊆ [index] := by
      intro other member
      by_contra differs
      exact alone ⟨other, by simpa using differs, mem_sharing.mp member⟩
    have := (List.subperm_of_subset nodup only).length_le
    simp only [List.length_singleton] at this
    omega
  · intro shared
    obtain ⟨other, differs, same⟩ := shared
    have both : [index, other] ⊆ env.sharing index := by
      intro entry member
      obtain rfl | rfl : entry = index ∨ entry = other := by simpa using member
      · exact here
      · exact mem_sharing.mpr same
    have := (List.subperm_of_subset (by simpa using differs.symm) both).length_le
    simp only [List.length_cons, List.length_nil] at this
    omega

/-- A location is refused when it is shared and a partition at it is read. -/
theorem throwIfLocationShared_eq_ok (nonempty : env.locationOf owner ≠ []) (first : env.IsFirst owner) :
    env.throwIfLocationShared owner reading = .ok () ↔
      ¬ (env.IsShared owner ∧ ∃ index ∈ reading, env.locationOf index = env.locationOf owner) := by
  have known := partitionByLocation_eq_some.mpr ⟨nonempty, rfl, first⟩
  unfold throwIfLocationShared sharedLocations
  by_cases shared : env.IsShared owner
  · simp only [known, true_and, one_lt_sharing, shared, if_true, List.any_eq_true, mem_sharing, decide_eq_true_eq,
      not_exists, not_and]
    split_ifs with read
    · simp only [false_iff, not_forall, not_not]
      obtain ⟨index, same, reads⟩ := read
      exact ⟨index, reads, same⟩
    · simp only [true_iff]
      exact fun index reads same => read ⟨index, same, reads⟩
  · simp [known, one_lt_sharing, shared]

end HiveListing

end DuckGlue
