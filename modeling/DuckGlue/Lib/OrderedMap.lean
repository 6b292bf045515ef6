import Mathlib.Data.List.Sort

/-! # A map filled in order

A map kept as a list in the order of its keys. Filling it with entries one after another
keeps the first value of each key.
-/

namespace DuckGlue.OrderedMap

variable {κ β : Type} [DecidableEq κ] (before : κ → κ → Bool)

/-- Adds an entry unless its key is there. -/
def emplace (entries : List (κ × β)) (entry : κ × β) : List (κ × β) :=
  if entry.1 ∈ entries.map (·.1) then entries
  else entries.orderedInsert (fun a b => before a.1 b.1 = true) entry

/-- The first value given for a key. -/
def firstValue (given : List (κ × β)) (key : κ) : Option β := given.lookup key

/-- The map after filling it with entries: the first value of each key, once. -/
structure Filled (given entries : List (κ × β)) : Prop where
  first : ∀ key value, (key, value) ∈ entries ↔ firstValue given key = some value
  once : (entries.map (·.1)).Nodup

variable {before} {given entries : List (κ × β)}

theorem filled_nil : Filled ([] : List (κ × β)) [] := ⟨by simp [firstValue], List.nodup_nil⟩

theorem firstValue_append {more : List (κ × β)} {key : κ} :
    firstValue (given ++ more) key = (firstValue given key).or (firstValue more key) := List.lookup_append

theorem firstValue_self {entry : κ × β} : firstValue [entry] entry.1 = some entry.2 := List.lookup_cons_self

theorem firstValue_other {entry : κ × β} {key : κ} (differs : key ≠ entry.1) : firstValue [entry] key = none := by
  simpa [firstValue] using differs

theorem mem_of_firstValue {key : κ} {value : β} (found : firstValue given key = some value) : (key, value) ∈ given := by
  obtain ⟨front, back, rfl, _⟩ := List.lookup_eq_some_iff.mp found
  simp

/-- The first value among what elements are read to is that of the first element read to
the key. -/
theorem firstValue_filterMap {α : Type*} {read : α → Option (κ × β)} {xs : List α} {key : κ} {value : β} :
    firstValue (xs.filterMap read) key = some value ↔ ∃ before x after, xs = before ++ x :: after ∧
      read x = some (key, value) ∧ ∀ earlier ∈ before, ∀ other, read earlier ≠ some (key, other) := by
  induction xs with
  | nil => simp [firstValue]
  | cons x xs ih =>
      -- an element not read to the key is one of those before
      have later : (∀ other, read x ≠ some (key, other)) → ((∃ before y after, x :: xs = before ++ y :: after ∧
          read y = some (key, value) ∧ ∀ earlier ∈ before, ∀ other, read earlier ≠ some (key, other)) ↔
          firstValue (xs.filterMap read) key = some value) := by
        intro unread
        rw [ih]
        constructor
        · intro found
          obtain ⟨before, y, after, split, here, first⟩ := found
          cases before with
          | nil =>
              cases split
              exact absurd here (unread value)
          | cons head before =>
              cases split
              exact ⟨before, y, after, rfl, here, (List.forall_mem_cons.mp first).2⟩
        · intro found
          obtain ⟨before, y, after, rfl, here, first⟩ := found
          exact ⟨x :: before, y, after, rfl, here, List.forall_mem_cons.mpr ⟨unread, first⟩⟩
      cases here : read x with
      | none =>
          rw [List.filterMap_cons_none here]
          exact (later fun other => by simp [here]).symm
      | some entry =>
          obtain ⟨k, v⟩ := entry
          rw [List.filterMap_cons_some here]
          by_cases same : k = key
          · subst same
            rw [show firstValue ((k, v) :: xs.filterMap read) k = some v from List.lookup_cons_self]
            constructor
            · intro equal
              cases equal
              exact ⟨[], x, xs, rfl, here, fun _ member => absurd member List.not_mem_nil⟩
            · intro found
              obtain ⟨before, y, after, split, there, first⟩ := found
              cases before with
              | nil =>
                  cases split
                  rw [here] at there
                  cases there
                  rfl
              | cons head before =>
                  cases split
                  exact absurd here (first x List.mem_cons_self v)
          · have skipped : firstValue ((k, v) :: xs.filterMap read) key = firstValue (xs.filterMap read) key := by
              have append := @firstValue_append _ _ _ [(k, v)] (xs.filterMap read) key
              rw [firstValue_other (Ne.symm same), Option.none_or] at append
              exact append
            rw [skipped]
            refine (later fun other equal => ?_).symm
            rw [here] at equal
            cases equal
            exact same rfl

theorem firstValue_of_mem {entry : κ × β} (member : entry ∈ given) : ∃ value, firstValue given entry.1 = some value := by
  cases found : firstValue given entry.1 with
  | some value => exact ⟨value, rfl⟩
  | none =>
      have differs := List.lookup_eq_none_iff.mp found entry member
      simp at differs

theorem Filled.key_iff (filled : Filled given entries) {key : κ} :
    key ∈ entries.map (·.1) ↔ ∃ value, firstValue given key = some value := by
  constructor
  · intro member
    obtain ⟨⟨_, value⟩, inside, rfl⟩ := List.mem_map.mp member
    exact ⟨value, (filled.first _ value).mp inside⟩
  · intro ⟨value, found⟩
    exact List.mem_map.mpr ⟨(key, value), (filled.first key value).mpr found, rfl⟩

/-- An entry whose key was given before changes nothing. -/
theorem Filled.again (filled : Filled given entries) {entry : κ × β} (known : entry.1 ∈ entries.map (·.1)) :
    Filled (given ++ [entry]) entries := by
  obtain ⟨old, found⟩ := filled.key_iff.mp known
  refine ⟨fun key value => ?_, filled.once⟩
  rw [filled.first, firstValue_append]
  by_cases same : key = entry.1
  · rw [same, found]
    rfl
  · rw [firstValue_other same, Option.or_none]

theorem Filled.emplace (filled : Filled given entries) (entry : κ × β) :
    Filled (given ++ [entry]) (emplace before entries entry) := by
  unfold OrderedMap.emplace
  split_ifs with known
  · exact filled.again known
  · have inserted := List.perm_orderedInsert (fun a b : κ × β => before a.1 b.1 = true) entry entries
    have absent : firstValue given entry.1 = none := by
      cases found : firstValue given entry.1 with
      | none => rfl
      | some value => exact absurd (filled.key_iff.mpr ⟨value, found⟩) known
    constructor
    · intro key value
      rw [inserted.mem_iff, List.mem_cons, filled.first, firstValue_append]
      by_cases same : key = entry.1
      · rw [same, absent, Option.none_or, firstValue_self]
        simp [Prod.ext_iff, eq_comm]
      · have differs : (key, value) ≠ entry := fun equal => same (congrArg Prod.fst equal)
        simp [firstValue_other same, differs]
    · rw [(inserted.map (·.1)).nodup_iff, List.map_cons, List.nodup_cons]
      exact ⟨known, filled.once⟩

end DuckGlue.OrderedMap
