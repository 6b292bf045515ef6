import Mathlib.Data.List.AList
import Mathlib.Data.List.Perm.Basic

/-! # Grouping a list by a key

The elements of a list are put into groups one after another, each into the group of its
key. A map remembers the group of every key met so far; a new key opens a new group.
-/

namespace DuckGlue

/-- The groups, in the order their keys were met. -/
structure Grouping (κ α : Type) [DecidableEq κ] where
  groups : List (List α) := []
  groupOf : AList (fun _ : κ => ℕ) := ∅

namespace Grouping

variable {κ α : Type}

/-- An element put into a group, which may be the next one. -/
def addTo (groups : List (List α)) (group : ℕ) (x : α) : List (List α) :=
  if group = groups.length then groups ++ [[x]] else groups.modify group (· ++ [x])

variable [DecidableEq κ]

def add (grouping : Grouping κ α) (key : κ) (x : α) : Grouping κ α :=
  match grouping.groupOf.lookup key with
  | some group => { grouping with groups := addTo grouping.groups group x }
  | none =>
      { groups := addTo grouping.groups grouping.groups.length x
        groupOf := grouping.groupOf.insert key grouping.groups.length }

/-- Nothing where an element has no key. -/
def ofList (keyOf : α → Option κ) : Grouping κ α → List α → Option (Grouping κ α)
  | grouping, [] => some grouping
  | grouping, x :: xs => (keyOf x).bind fun key => ofList keyOf (grouping.add key x) xs

/-- The elements of a group are there and have one key. -/
def OneKey (keyOf : α → Option κ) (group : List α) : Prop := group ≠ [] ∧ ∃ key, ∀ x ∈ group, keyOf x = some key

/-- Every element is in one group, with elements of its key only. -/
structure Holds (keyOf : α → Option κ) (grouping : Grouping κ α) (xs : List α) : Prop where
  perm : grouping.groups.flatten.Perm xs
  oneKey : ∀ (number : ℕ) group, grouping.groups[number]? = some group → OneKey keyOf group
  found : ∀ key number, grouping.groupOf.lookup key = some number →
    ∃ group, grouping.groups[number]? = some group ∧ ∀ x ∈ group, keyOf x = some key

section AddTo

variable {groups : List (List α)} {number : ℕ} {x : α}

theorem addTo_length : addTo groups groups.length x = groups ++ [[x]] := if_pos rfl

theorem addTo_lt (inside : number < groups.length) : addTo groups number x = groups.modify number (· ++ [x]) :=
  if_neg (by omega)

theorem flatten_modify (inside : number < groups.length) :
    (groups.modify number (· ++ [x])).flatten.Perm (groups.flatten ++ [x]) := by
  induction groups generalizing number with
  | nil => simp at inside
  | cons group groups ih =>
      cases number with
      | zero =>
          simp only [List.modify_zero_cons, List.flatten_cons, List.append_assoc]
          exact List.perm_append_comm.append_left group
      | succ number =>
          simp only [List.modify_succ_cons, List.flatten_cons, List.append_assoc]
          exact (ih (by simpa using inside)).append_left group

/-- Everything put into one group. -/
theorem foldl_addTo_zero (xs : List α) :
    xs.foldl (fun groups x => addTo groups 0 x) [] = if xs = [] then [] else [xs] := by
  have more : ∀ (xs group : List α), xs.foldl (fun groups x => addTo groups 0 x) [group] = [group ++ xs] := by
    intro xs
    induction xs with
    | nil => simp
    | cons x xs ih =>
        intro group
        rw [List.foldl_cons, addTo_lt (by simp), List.modify_zero_cons, ih, List.append_assoc, List.singleton_append]
  cases xs with
  | nil => rfl
  | cons x xs =>
      rw [List.foldl_cons, if_neg nofun]
      exact more xs [x]

end AddTo

namespace Holds

variable {keyOf : α → Option κ} {grouping : Grouping κ α} {xs : List α} {key : κ} {x : α}

theorem empty : Holds keyOf {} [] where
  perm := .nil
  oneKey := nofun
  found := fun key _ found => absurd (found.symm.trans (AList.lookup_empty key)) nofun

/-- A group is of one key only. -/
theorem key_unique (holds : Holds keyOf grouping xs) {number : ℕ} {other : κ}
    (one : grouping.groupOf.lookup key = some number) (two : grouping.groupOf.lookup other = some number) :
    key = other := by
  obtain ⟨group, there, all⟩ := holds.found key number one
  obtain ⟨same, here, others⟩ := holds.found other number two
  rw [there] at here
  cases here
  obtain ⟨x, member⟩ := List.exists_mem_of_ne_nil group (holds.oneKey number group there).1
  exact Option.some.inj ((all x member).symm.trans (others x member))

omit [DecidableEq κ] in
theorem keyed_append {group : List α} (all : ∀ x ∈ group, keyOf x = some key) (keyed : keyOf x = some key) :
    ∀ x' ∈ group ++ [x], keyOf x' = some key := by
  intro x' member
  rcases List.mem_append.mp member with old | new
  · exact all x' old
  · rw [List.mem_singleton.mp new]
    exact keyed

theorem add_known (holds : Holds keyOf grouping xs) (keyed : keyOf x = some key) {number : ℕ}
    (known : grouping.groupOf.lookup key = some number) :
    Holds keyOf { grouping with groups := addTo grouping.groups number x } (xs ++ [x]) := by
  obtain ⟨group, there, all⟩ := holds.found key number known
  have inside : number < grouping.groups.length := (List.getElem?_eq_some_iff.mp there).1
  rw [addTo_lt inside]
  have extended : (grouping.groups.modify number (· ++ [x]))[number]? = some (group ++ [x]) := by
    rw [List.getElem?_modify_eq, there]
    rfl
  constructor
  · exact (flatten_modify inside).trans (holds.perm.append_right [x])
  · intro other one here
    by_cases same : number = other
    · subst same
      cases extended.symm.trans here
      exact ⟨by simp, key, keyed_append all keyed⟩
    · rw [List.getElem?_modify_ne _ _ same] at here
      exact holds.oneKey other one here
  · intro otherKey other found
    by_cases same : number = other
    · subst same
      rw [holds.key_unique found known]
      exact ⟨_, extended, keyed_append all keyed⟩
    · rw [List.getElem?_modify_ne _ _ same]
      exact holds.found otherKey other found

theorem add_new (holds : Holds keyOf grouping xs) (keyed : keyOf x = some key) :
    Holds keyOf
      { groups := addTo grouping.groups grouping.groups.length x
        groupOf := grouping.groupOf.insert key grouping.groups.length } (xs ++ [x]) := by
  rw [addTo_length]
  have new : ∀ x' ∈ [x], keyOf x' = some key := by
    intro x' member
    rw [List.mem_singleton.mp member]
    exact keyed
  constructor
  · rw [List.flatten_append]
    exact holds.perm.append_right [x]
  · intro number group here
    rcases Nat.lt_or_ge number grouping.groups.length with inside | outside
    · rw [List.getElem?_append_left inside] at here
      exact holds.oneKey number group here
    · rw [List.getElem?_append_right outside] at here
      have only := List.mem_singleton.mp (List.mem_of_getElem? here)
      subst only
      exact ⟨by simp, key, new⟩
  · intro other number found
    by_cases same : other = key
    · subst same
      rw [AList.lookup_insert] at found
      cases found
      exact ⟨[x], by simp, new⟩
    · rw [AList.lookup_insert_ne same] at found
      obtain ⟨group, there, all⟩ := holds.found other number found
      refine ⟨group, ?_, all⟩
      rw [List.getElem?_append_left (List.getElem?_eq_some_iff.mp there).1]
      exact there

theorem add (holds : Holds keyOf grouping xs) (keyed : keyOf x = some key) :
    Holds keyOf (grouping.add key x) (xs ++ [x]) := by
  unfold Grouping.add
  cases known : grouping.groupOf.lookup key with
  | some number => exact holds.add_known keyed known
  | none => exact holds.add_new keyed

theorem ofList {more : List α} {result : Grouping κ α} (holds : Holds keyOf grouping xs)
    (grouped : ofList keyOf grouping more = some result) : Holds keyOf result (xs ++ more) := by
  induction more generalizing grouping xs with
  | nil =>
      cases grouped
      rw [List.append_nil]
      exact holds
  | cons x more ih =>
      obtain ⟨key, keyed, rest⟩ := Option.bind_eq_some_iff.mp grouped
      have later := ih (holds.add keyed) rest
      rwa [List.append_assoc, List.singleton_append] at later

end Holds

end Grouping

end DuckGlue
