import DuckGlue.Lib.Fallible
import Mathlib.Data.List.DropRight
import Mathlib.Data.List.Basic
import Mathlib.Data.List.TakeWhile

/-! # Parsers over a state

A parser reads from the front of what is left of its input, which it can also see whole.
A run of it is read off the runs of its parts; tokens are what a predicate spans, after
the characters that are skipped.
-/

namespace DuckGlue.Parsing

variable {ρ σ ε α β : Type}

abbrev Parser (ρ σ ε : Type) := ReaderT ρ (StateT σ (Except ε))

/-- The parser returns `a` and leaves `t`. -/
def Reads (r : ρ) (p : Parser ρ σ ε α) (s : σ) (a : α) (t : σ) : Prop := (p.run r).run s = .ok (a, t)

section Rules

variable {r : ρ} {p : Parser ρ σ ε α} {f : α → Parser ρ σ ε β} {s t : σ}

@[simp] theorem reads_bind {b : β} : Reads r (p >>= f) s b t ↔ ∃ a u, Reads r p s a u ∧ Reads r (f a) u b t := by
  unfold Reads
  rw [ReaderT.run_bind, StateT.run_bind, Fallible.bind_eq_ok]
  constructor
  · rintro ⟨⟨a, u⟩, first, rest⟩
    exact ⟨a, u, first, rest⟩
  · rintro ⟨a, u, first, rest⟩
    exact ⟨(a, u), first, rest⟩

@[simp] theorem reads_pure {a b : α} : Reads r (pure a : Parser ρ σ ε α) s b t ↔ a = b ∧ s = t := by
  change Except.ok (a, s) = Except.ok (b, t) ↔ _
  simp

@[simp] theorem reads_get {u : σ} : Reads r (get : Parser ρ σ ε σ) s u t ↔ s = u ∧ s = t := by
  change Except.ok (s, s) = Except.ok (u, t) ↔ _
  simp

@[simp] theorem reads_read {q : ρ} : Reads r (read : Parser ρ σ ε ρ) s q t ↔ r = q ∧ s = t := by
  change Except.ok (r, s) = Except.ok (q, t) ↔ _
  simp

@[simp] theorem reads_set {u : σ} {x : PUnit} : Reads r (set u : Parser ρ σ ε PUnit) s x t ↔ u = t := by
  change Except.ok (PUnit.unit, u) = Except.ok (x, t) ↔ _
  simp

@[simp] theorem reads_modify {g : σ → σ} {x : PUnit} : Reads r (modify g : Parser ρ σ ε PUnit) s x t ↔ g s = t := by
  change Except.ok (PUnit.unit, g s) = Except.ok (x, t) ↔ _
  simp

@[simp] theorem reads_throw {e : ε} {a : α} : ¬Reads r (throw e : Parser ρ σ ε α) s a t := by
  change ¬Except.error e = Except.ok (a, t)
  intro same
  cases same

/-- An error that shows the input. -/
theorem reads_refusal {e : ρ → ε} {γ : Type} {f : ρ → γ → Parser ρ σ ε α} {a : α} :
    ¬Reads r (do let q ← read; let c ← throw (e q); f q c) s a t := by
  rw [reads_bind]
  rintro ⟨_, _, _, rest⟩
  rw [reads_bind] at rest
  obtain ⟨_, _, thrown, _⟩ := rest
  exact reads_throw thrown

/-- A guard that throws is passed. -/
theorem reads_guard {guarded : Prop} [Decidable guarded] {stop rest : Parser ρ σ ε α} {a : α}
    (throws : ∀ a t, ¬Reads r stop s a t) :
    Reads r (if guarded then stop else rest) s a t ↔ ¬guarded ∧ Reads r rest s a t := by
  by_cases here : guarded
  · rw [if_pos here]
    constructor
    · intro read
      exact absurd read (throws a t)
    · intro passed
      exact absurd here passed.1
  · rw [if_neg here]
    constructor
    · intro read
      exact ⟨here, read⟩
    · intro passed
      exact passed.2

theorem Reads.unique {a b : α} {u : σ} (read : Reads r p s a t) (again : Reads r p s b u) : a = b ∧ t = u := by
  have same := read.symm.trans again
  cases same
  exact ⟨rfl, rfl⟩

end Rules

section Spans

variable {p : α → Bool} {word rest s : List α}

/-- A word of such characters ends where they do. -/
theorem takeWhile_span (all : ∀ c ∈ word, p c = true) (ends : ∀ c ∈ rest.head?, p c = false) :
    (word ++ rest).takeWhile p = word ∧ (word ++ rest).dropWhile p = rest := by
  rw [List.takeWhile_append_of_pos all, List.dropWhile_append_of_pos all]
  cases rest with
  | nil => simp
  | cons c rest =>
      have stop : ¬p c = true := by simp [ends c rfl]
      rw [List.takeWhile_cons_of_neg stop, List.dropWhile_cons_of_neg stop, List.append_nil]
      exact ⟨rfl, rfl⟩

theorem takeWhile_all : ∀ c ∈ s.takeWhile p, p c = true := by
  intro c member
  exact List.mem_takeWhile_imp member

theorem dropWhile_head : ∀ c ∈ (s.dropWhile p).head?, p c = false := by
  intro c here
  have stop := List.head?_dropWhile_not p s
  rw [Option.mem_def] at here
  rw [here] at stop
  simpa using stop

/-- What is skipped changes nothing of what is skipped then. -/
theorem dropWhile_append (all : ∀ c ∈ word, p c = true) : (word ++ rest).dropWhile p = rest.dropWhile p :=
  List.dropWhile_append_of_pos all

theorem dropWhile_of_head (ends : ∀ c ∈ rest.head?, p c = false) : rest.dropWhile p = rest := by
  cases rest with
  | nil => rfl
  | cons c rest => exact List.dropWhile_cons_of_neg (by simp [ends c rfl])

/-- What is left after a part of what is skipped. -/
theorem exists_skipped (s : List α) : ∃ skipped, (∀ c ∈ skipped, p c = true) ∧ s = skipped ++ s.dropWhile p :=
  ⟨s.takeWhile p, takeWhile_all, List.takeWhile_append_dropWhile.symm⟩

/-- What trails a word is dropped from its end. -/
theorem rdropWhile_span (all : ∀ c ∈ rest, p c = true) (ends : ∀ c ∈ word.getLast?, p c = false) :
    (word ++ rest).rdropWhile p = word := by
  unfold List.rdropWhile
  have trailing : ∀ c ∈ rest.reverse, p c = true := fun c member => all c (List.mem_reverse.mp member)
  have head : ∀ c ∈ word.reverse.head?, p c = false := by
    rw [List.head?_reverse]
    exact ends
  rw [List.reverse_append, (takeWhile_span trailing head).2, List.reverse_reverse]

theorem exists_trailing (s : List α) : ∃ trailing, (∀ c ∈ trailing, p c = true) ∧ s = s.rdropWhile p ++ trailing := by
  refine ⟨(s.reverse.takeWhile p).reverse, fun c member => takeWhile_all c (List.mem_reverse.mp member), ?_⟩
  unfold List.rdropWhile
  rw [← List.reverse_append, List.takeWhile_append_dropWhile, List.reverse_reverse]

theorem rdropWhile_last : ∀ c ∈ (s.rdropWhile p).getLast?, p c = false := by
  unfold List.rdropWhile
  rw [List.getLast?_reverse]
  exact dropWhile_head

end Spans

end DuckGlue.Parsing
