import Mathlib.Data.List.DropRight
import Mathlib.Data.List.Infix
import Mathlib.Order.Lattice

/-! # Lists in key order

Keys below one prefix follow each other in key order. A list ends in a run of elements of
one kind, which can be cut off.
-/

namespace DuckGlue.KeyOrder

section Prefixes

variable {α : Type} [LinearOrder α] {start a b c : List α}

/-- Between two keys below a prefix there are only such keys. -/
theorem prefix_between (first : a < b) (second : b < c) (below : start <+: a) (above : start <+: c) : start <+: b := by
  induction start generalizing a b c with
  | nil => exact List.nil_prefix
  | cons x start ih =>
      obtain ⟨a, rfl⟩ := below
      obtain ⟨c, rfl⟩ := above
      cases b with
      | nil => cases first
      | cons y b =>
          rw [List.cons_append, List.cons_lt_cons_iff] at first second
          have same : x = y := by
            rcases first with less | ⟨same, -⟩
            · rcases second with less' | ⟨same, -⟩
              · exact absurd (lt_trans less less') (lt_irrefl x)
              · exact same.symm
            · exact same
          subst same
          have first := first.resolve_left (lt_irrefl x)
          have second := second.resolve_left (lt_irrefl x)
          rw [List.cons_prefix_cons]
          exact ⟨rfl, ih first.2 second.2 (List.prefix_append _ _) (List.prefix_append _ _)⟩

/-- No key is before its prefixes. -/
theorem not_lt_prefix (below : start <+: a) : ¬ a < start := by
  induction start generalizing a with
  | nil => exact List.not_lt_nil a
  | cons x start ih =>
      obtain ⟨a, rfl⟩ := below
      rw [List.cons_append, List.cons_lt_cons_iff]
      intro less
      exact ih (List.prefix_append _ _) (less.resolve_left (lt_irrefl x)).2

end Prefixes

section Ends

variable {α : Type} {p : α → Bool} {l front back : List α} {x : α}

theorem mem_rdropWhile_of_not (member : x ∈ l) (kept : p x = false) : x ∈ l.rdropWhile p := by
  have split : l = l.rdropWhile p ++ l.rtakeWhile p := List.rdropWhile_append_rtakeWhile.symm
  rw [split] at member
  rcases List.mem_append.mp member with here | cut
  · exact here
  · rw [List.mem_rtakeWhile_imp cut] at kept
    cases kept

/-- What is cut off the end. -/
theorem rdropWhile_of_split (run : ∀ x ∈ back, p x = true) (kept : ∀ x ∈ front, p x = false) :
    (front ++ back).rdropWhile p = front := by
  induction back using List.reverseRecOn with
  | nil =>
      rw [List.append_nil, List.rdropWhile_eq_self_iff]
      intro nonempty
      rw [kept _ (List.getLast_mem nonempty)]
      exact Bool.false_ne_true
  | append_singleton back x ih =>
      rw [← List.append_assoc, List.rdropWhile_concat_pos _ _ _ (run x (by simp))]
      exact ih fun y member => run y (List.mem_append_left _ member)

theorem rdropWhile_append_of_all (run : ∀ x ∈ back, p x = true) :
    (front ++ back).rdropWhile p = front.rdropWhile p := by
  induction back using List.reverseRecOn with
  | nil => rw [List.append_nil]
  | append_singleton back x ih =>
      rw [← List.append_assoc, List.rdropWhile_concat_pos _ _ _ (run x (by simp))]
      exact ih fun y member => run y (List.mem_append_left _ member)

theorem drop_rdropWhile : l.drop (l.rdropWhile p).length = l.rtakeWhile p := by
  have split : l = l.rdropWhile p ++ l.rtakeWhile p := List.rdropWhile_append_rtakeWhile.symm
  exact (congrArg (List.drop (l.rdropWhile p).length) split).trans List.drop_left

/-- What is left of the end after the cut. -/
theorem of_mem_drop {n : ℕ} (behind : (l.rdropWhile p).length ≤ n) (member : x ∈ l.drop n) : p x = true := by
  apply List.mem_rtakeWhile_imp
  rw [← drop_rdropWhile]
  exact (List.drop_sublist_drop_left l behind).subset member

theorem getLast_mem_rtakeWhile (nonempty : l ≠ []) (cut : p (l.getLast nonempty) = true) :
    l.getLast nonempty ∈ l.rtakeWhile p := by
  have split := List.dropLast_append_getLast nonempty
  have run : l.rtakeWhile p = l.dropLast.rtakeWhile p ++ [l.getLast nonempty] := by
    conv_lhs => rw [← split]
    exact List.rtakeWhile_concat_pos _ _ _ cut
  rw [run]
  exact List.mem_append_right _ (List.mem_singleton.mpr rfl)

/-- In a sorted list everything else is before the last element. -/
theorem lt_getLast {R : α → α → Prop} (sorted : l.Pairwise R) (nonempty : l ≠ []) (member : x ∈ l)
    (other : x ≠ l.getLast nonempty) : R x (l.getLast nonempty) := by
  have split := List.dropLast_append_getLast nonempty
  rw [← split] at sorted member
  have before : x ∈ l.dropLast := by
    rcases List.mem_append.mp member with front | last
    · exact front
    · exact absurd (List.mem_singleton.mp last) other
  exact (List.pairwise_append.mp sorted).2.2 x before _ (List.mem_singleton.mpr rfl)

end Ends

end DuckGlue.KeyOrder
