import Mathlib.Tactic.Common

/-! # Runs

The runs of a system whose steps carry labels: a state reaches another through the
labels of the steps between them. What one step keeps, a whole run keeps.
-/

namespace DuckGlue

variable {State Label : Type}

/-- A run through the labels, in order. -/
inductive Run (step : State → Label → State → Prop) : State → List Label → State → Prop where
  | nil {s : State} : Run step s [] s
  | cons {s next last : State} {label : Label} {labels : List Label} (first : step s label next)
      (rest : Run step next labels last) : Run step s (label :: labels) last

namespace Run

variable {step : State → Label → State → Prop} {s t last : State} {label : Label} {labels : List Label}

theorem single (taken : step s label t) : Run step s [label] t := .cons taken .nil

/-- What every step keeps holds after a run. -/
theorem invariant {Inv : State → Prop} (kept : ∀ {s label t}, step s label t → Inv s → Inv t)
    (run : Run step s labels t) (holds : Inv s) : Inv t := by
  induction run with
  | nil => exact holds
  | cons first _ ih => exact ih (kept first holds)

/-- The steps of a run have what all of its labels have. -/
theorem restrict {Allowed : Label → Prop} (run : Run step s labels t) (all : ∀ label ∈ labels, Allowed label) :
    Run (fun s label t => step s label t ∧ Allowed label) s labels t := by
  induction run with
  | nil => exact .nil
  | cons first _ ih =>
      obtain ⟨head, tail⟩ := List.forall_mem_cons.mp all
      exact .cons ⟨first, head⟩ (ih tail)

/-- Taking the steps one after another is a run. -/
theorem of_foldlM {next : State → Label → Option State} (taken : labels.foldlM next s = some t) :
    Run (fun s label t => next s label = some t) s labels t := by
  induction labels generalizing s with
  | nil =>
      cases taken
      exact .nil
  | cons label labels ih =>
      rw [List.foldlM_cons] at taken
      cases first : next s label with
      | none => rw [first] at taken; cases taken
      | some middle =>
          rw [first] at taken
          exact .cons first (ih taken)

end Run

end DuckGlue
