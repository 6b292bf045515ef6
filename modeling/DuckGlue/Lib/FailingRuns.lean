import Mathlib.Tactic.Common

/-! # Runs that may throw

What is done before a throw stays done. A run is described by what holds where it returns
and by what holds where it throws.
-/

namespace DuckGlue.FailingRuns

variable {σ ε α β : Type}

/-- The state a run ends in. -/
def finalState : EStateM.Result ε σ α → σ
  | .ok _ s => s
  | .error _ s => s

/-- From a state with `pre` the run returns with `post`, or throws with `thrown`. -/
def Ensures (pre : σ → Prop) (run : EStateM ε σ α) (post : α → σ → Prop) (thrown : σ → Prop) : Prop :=
  ∀ s, pre s →
    match run s with
    | .ok a s' => post a s'
    | .error _ s' => thrown s'

section Bind

variable {run : EStateM ε σ α} {next : α → EStateM ε σ β} {s s' s'' : σ} {a : α} {b : β} {e : ε}

theorem bind_ok (ran : run s = .ok a s') : (run >>= next) s = next a s' := by
  change EStateM.bind run next s = next a s'
  simp only [EStateM.bind, ran]

theorem bind_error (threw : run s = .error e s') : (run >>= next) s = .error e s' := by
  change EStateM.bind run next s = .error e s'
  simp only [EStateM.bind, threw]

end Bind

namespace Ensures

variable {pre : σ → Prop} {run : EStateM ε σ α} {next : α → EStateM ε σ β} {post : α → σ → Prop} {last : β → σ → Prop}
  {thrown : σ → Prop}

theorem pure {a : α} (holds : ∀ s, pre s → post a s) : Ensures pre (pure a : EStateM ε σ α) post thrown := holds

theorem throw {e : ε} (holds : ∀ s, pre s → thrown s) : Ensures pre (throw e : EStateM ε σ α) post thrown := holds

theorem bind (first : Ensures pre run post thrown) (second : ∀ a, Ensures (post a) (next a) last thrown) :
    Ensures pre (run >>= next) last thrown := by
  intro s holds
  have after := first s holds
  cases ran : run s with
  | ok a s' =>
      rw [ran] at after
      rw [bind_ok ran]
      exact second a s' after
  | error e s' =>
      rw [ran] at after
      rw [bind_error ran]
      exact after

/-- What holds however the run ends. -/
theorem final {inv : σ → Prop} {s : σ} (ensures : Ensures pre run (fun _ => inv) inv) (holds : pre s) :
    inv (finalState (run s)) := by
  have after := ensures s holds
  cases ran : run s with
  | ok a s' =>
      rw [ran] at after
      exact after
  | error e s' =>
      rw [ran] at after
      exact after

/-- What every element keeps a sequence keeps, along with what each has returned. -/
theorem mapM {γ : Type} {xs : List γ} {each : γ → EStateM ε σ α} {inv : σ → Prop} {returned : γ → α → Prop}
    (kept : ∀ x ∈ xs, Ensures inv (each x) (fun a s => inv s ∧ returned x a) inv) :
    Ensures inv (xs.mapM each) (fun results s => inv s ∧ List.Forall₂ returned xs results) inv := by
  induction xs with
  | nil => exact fun s holds => ⟨holds, .nil⟩
  | cons x xs ih =>
      rw [List.mapM_cons]
      apply bind (kept x List.mem_cons_self)
      intro a s holds
      have later : Ensures inv (xs.mapM each) (fun results s => inv s ∧ List.Forall₂ returned xs results) inv :=
        ih fun y member => kept y (List.mem_cons_of_mem x member)
      apply later.bind _ s holds.1
      exact fun results s' both => ⟨both.1, .cons holds.2 both.2⟩

/-- An invariant of a loop that carries a value. -/
theorem foldlM {γ : Type} {xs : List γ} {step : α → γ → EStateM ε σ α} {inv : α → σ → Prop} {a : α}
    (kept : ∀ x ∈ xs, ∀ a, Ensures (inv a) (step a x) inv thrown) : Ensures (inv a) (xs.foldlM step a) inv thrown := by
  induction xs generalizing a with
  | nil => exact fun s holds => holds
  | cons x xs ih =>
      rw [List.foldlM_cons]
      apply bind (kept x List.mem_cons_self a)
      intro a'
      exact ih fun y member => kept y (List.mem_cons_of_mem x member)

end Ensures

end DuckGlue.FailingRuns
