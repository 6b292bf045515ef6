import Mathlib.Data.List.AList
import Mathlib.Data.List.Induction

/-! # Tallies

What the elements of each key add up to, in the order of the list.
-/

namespace DuckGlue.Tally

variable {κ α β : Type} [DecidableEq κ] (add : β → α → β) (zero : β)

/-- One more element of a key. -/
def count (tally : AList (fun _ : κ => β)) (entry : κ × α) : AList (fun _ : κ => β) :=
  tally.insert entry.1 (add ((tally.lookup entry.1).getD zero) entry.2)

/-- The elements of a key. -/
def elements (entries : List (κ × α)) (key : κ) : List α := (entries.filter fun entry => entry.1 = key).map (·.2)

/-- What elements add up to, if there are any. -/
def total (elements : List α) : Option β := if elements = [] then none else some (elements.foldl add zero)

variable {add zero} {entries : List (κ × α)} {key : κ}

theorem elements_concat {entry : κ × α} :
    elements (entries ++ [entry]) key =
      if entry.1 = key then elements entries key ++ [entry.2] else elements entries key := by
  unfold elements
  rw [List.filter_append, List.map_append]
  by_cases same : entry.1 = key <;> simp [same]

theorem getD_total {elements : List α} : (total add zero elements).getD zero = elements.foldl add zero := by
  unfold total
  split_ifs with empty
  · rw [empty]
    rfl
  · rfl

theorem total_concat {elements : List α} {x : α} :
    total add zero (elements ++ [x]) = some (add (elements.foldl add zero) x) := by
  unfold total
  rw [if_neg (by simp), List.foldl_concat]

theorem total_eq_none {elements : List α} : total add zero elements = none ↔ elements = [] := by
  unfold total
  split_ifs with empty
  · exact iff_of_true rfl empty
  · exact iff_of_false nofun empty

/-- The tally of a list has the total of each key. -/
theorem lookup_tally (entries : List (κ × α)) (key : κ) :
    (entries.foldl (count add zero) ∅).lookup key = total add zero (elements entries key) := by
  induction entries using List.reverseRecOn generalizing key with
  | nil => rfl
  | append_singleton entries entry ih =>
      rw [List.foldl_concat, elements_concat, count, ih, getD_total]
      split_ifs with same
      · subst same
        rw [AList.lookup_insert, total_concat]
      · rw [AList.lookup_insert_ne (Ne.symm same), ih]

end DuckGlue.Tally
