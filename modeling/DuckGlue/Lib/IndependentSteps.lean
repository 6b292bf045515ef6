import Mathlib.Data.List.Pairwise
import Mathlib.Tactic.Common

/-! # Steps that do not concern each other

Two steps are independent where neither decides whether the other can be taken and their
order does not matter. A sequence of such steps can be taken exactly when each of them can
be taken first, and in any order.
-/

namespace DuckGlue

variable {State Step : Type}

/-- The first step does not decide whether the second can be taken. -/
def Undisturbed (take : State → Step → Option State) (a b : Step) : Prop :=
  ∀ {s s'}, take s a = some s' → ((take s' b).isSome ↔ (take s b).isSome)

/-- A sequence can be taken when each of its steps can be taken first. -/
theorem Undisturbed.foldlM_isSome_iff {take : State → Step → Option State} {steps : List Step} {s : State}
    (undisturbed : steps.Pairwise (Undisturbed take)) :
    (steps.foldlM take s).isSome ↔ ∀ step ∈ steps, (take s step).isSome := by
  induction undisturbed generalizing s with
  | nil => simp
  | @cons first rest others _ ih =>
      rw [List.foldlM_cons, List.forall_mem_cons]
      cases taken : take s first with
      | none => simp
      | some s' =>
          have same : ∀ step ∈ rest, ((take s' step).isSome ↔ (take s step).isSome) :=
            fun step member => others step member taken
          change (rest.foldlM take s').isSome ↔ _
          rw [ih, Option.isSome_some]
          constructor
          · intro each
            exact ⟨rfl, fun step member => (same step member).mp (each step member)⟩
          · intro both step member
            exact (same step member).mpr (both.2 step member)

/-- What the two steps do is the same in either order, and one does not enable the other. -/
structure Independent (take : State → Step → Option State) (a b : Step) : Prop where
  commutes : ∀ s, (take s a).bind (take · b) = (take s b).bind (take · a)
  later : Undisturbed take a b

namespace Independent

variable {take : State → Step → Option State} {a b : Step} {steps steps' : List Step} {s s' : State}

theorem symm (independent : Independent take a b) : Independent take b a where
  commutes s := (independent.commutes s).symm
  later := by
    intro s s' taken
    have order := independent.commutes s
    rw [taken, Option.bind_some] at order
    cases first : take s a with
    | none =>
        rw [first, Option.bind_none] at order
        rw [← order]
    | some s'' =>
        rw [first, Option.bind_some] at order
        have enabled := independent.later first
        rw [order, taken] at enabled
        simpa using enabled

/-- The order of the steps does not matter. -/
theorem foldlM_perm (independent : steps.Pairwise (Independent take)) (perm : steps.Perm steps') :
    steps.foldlM take s = steps'.foldlM take s := by
  induction perm generalizing s with
  | nil => rfl
  | cons step _ ih =>
      rw [List.foldlM_cons, List.foldlM_cons]
      congr 1
      funext s'
      exact ih (List.pairwise_cons.mp independent).2
  | swap first second rest =>
      have both := (List.pairwise_cons.mp independent).1 first List.mem_cons_self
      have grouped : ∀ a b, (a :: b :: rest).foldlM take s = ((take s a).bind (take · b)).bind (rest.foldlM take ·) := by
        intro a b
        rw [Option.bind_assoc]
        rfl
      rw [grouped, grouped, both.commutes]
  | trans perm _ ih₁ ih₂ => exact (ih₁ independent).trans (ih₂ (independent.perm perm symm))

end Independent

end DuckGlue
