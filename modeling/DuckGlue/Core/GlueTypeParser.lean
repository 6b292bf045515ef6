import DuckGlue.Core.GlueTypes
import DuckGlue.Lib.Parsing

/-! # What the parser of Glue types reads

Each part of the parser by what it takes off the input and what it leaves.
-/

namespace DuckGlue.GlueTypeParser

open StringUtil Parsing

/-- The input after white space. -/
abbrev skip (s : Text) : Text := s.dropWhile isSpace

def Spaces (s : Text) : Prop := ∀ c ∈ s, isSpace c = true

variable {input s t : Text} {c : Char}

theorem skip_spaces {spaces : Text} (blank : Spaces spaces) (s : Text) : skip (spaces ++ s) = skip s :=
  dropWhile_append blank

theorem skip_cons (visible : isSpace c = false) (s : Text) : skip (c :: s) = c :: s :=
  List.dropWhile_cons_of_neg (by simp [visible])

theorem skip_skip (s : Text) : skip (skip s) = skip s := dropWhile_of_head dropWhile_head

/-- White space before what is left after it. -/
theorem exists_spaces (s : Text) : ∃ spaces, Spaces spaces ∧ s = spaces ++ skip s := exists_skipped s

theorem spaces_append {a b : Text} (left : Spaces a) (right : Spaces b) : Spaces (a ++ b) := by
  intro c member
  rcases List.mem_append.mp member with here | here
  · exact left c here
  · exact right c here

@[simp] theorem reads_skipWhitespace {x : Unit} : Reads input skipWhitespace s x t ↔ skip s = t := reads_modify

@[simp] theorem reads_peek {found : Bool} :
    Reads input (peek c) s found t ↔ decide ((skip s).head? = some c) = found ∧ skip s = t := by
  unfold peek
  simp only [reads_bind, reads_skipWhitespace, reads_get, reads_pure]
  constructor
  · rintro ⟨_, _, rfl, _, _, ⟨rfl, rfl⟩, rfl, rfl⟩
    exact ⟨rfl, rfl⟩
  · rintro ⟨rfl, rfl⟩
    exact ⟨(), _, rfl, _, _, ⟨rfl, rfl⟩, rfl, rfl⟩

@[simp] theorem reads_advance {x : Unit} : Reads input advance s x t ↔ s.tail = t := reads_modify

@[simp] theorem reads_expect {x : Unit} : Reads input (expect c) s x t ↔ skip s = c :: t := by
  unfold expect
  rw [reads_bind]
  constructor
  · rintro ⟨found, u, peeked, rest⟩
    obtain ⟨rfl, rfl⟩ := reads_peek.mp peeked
    cases here : skip s with
    | nil =>
        rw [here] at rest
        simp at rest
    | cons head tail =>
        rw [here] at rest
        by_cases same : head = c
        · subst same
          simp at rest
          rw [rest]
        · simp [same] at rest
  · intro here
    refine ⟨true, c :: t, ?_, ?_⟩
    · rw [reads_peek, here]
      exact ⟨decide_eq_true rfl, rfl⟩
    · simp

/-- A type name, up to white space or a bracket. -/
theorem reads_readIdentifier {name : Text} : Reads input readIdentifier s name t ↔
    name ≠ [] ∧ (∀ c ∈ name, endsIdentifier c = false) ∧ (∀ c ∈ t.head?, endsIdentifier c = true) ∧
      skip s = name ++ t := by
  unfold readIdentifier
  simp only [reads_bind, reads_skipWhitespace, reads_get]
  constructor
  · rintro ⟨_, _, rfl, _, _, ⟨rfl, rfl⟩, rest⟩
    rw [reads_guard (by simp)] at rest
    obtain ⟨some, rest⟩ := rest
    simp only [reads_pure, reads_bind, reads_set] at rest
    obtain ⟨_, _, rfl, rfl, rfl⟩ := rest
    refine ⟨some, ?_, ?_, List.takeWhile_append_dropWhile.symm⟩
    · intro c member
      simpa using takeWhile_all c member
    · intro c member
      simpa using dropWhile_head c member
  · rintro ⟨some, plain, ends, here⟩
    refine ⟨(), _, rfl, _, _, ⟨rfl, rfl⟩, ?_⟩
    have inside : ∀ c ∈ name, (!endsIdentifier c) = true := by simpa using plain
    have outside : ∀ c ∈ t.head?, (!endsIdentifier c) = false := by simpa using ends
    obtain ⟨word, left⟩ := takeWhile_span inside outside
    rw [here, word, left, reads_guard (by simp)]
    refine ⟨some, ?_⟩
    simp only [reads_bind, reads_set, reads_pure]
    exact ⟨(), t, rfl, trivial, rfl⟩

/-- The number that digits spell. -/
def numberOf (digits : Text) : ℕ := digits.foldl (fun n c => 10 * n + (c.toNat - '0'.toNat)) 0

theorem reads_readInteger {n : ℕ} : Reads input readInteger s n t ↔ ∃ digits, digits ≠ [] ∧
    (∀ c ∈ digits, c.isDigit = true) ∧ numberOf digits ≤ 9223372036854775807 ∧ n = numberOf digits ∧
      (∀ c ∈ t.head?, c.isDigit = false) ∧ skip s = digits ++ t := by
  unfold readInteger
  simp only [reads_bind, reads_skipWhitespace, reads_get]
  constructor
  · rintro ⟨_, _, rfl, _, _, ⟨rfl, rfl⟩, rest⟩
    rw [reads_guard (by simp)] at rest
    obtain ⟨some, rest⟩ := rest
    rw [reads_guard (by simp)] at rest
    obtain ⟨small, rest⟩ := rest
    simp only [reads_pure, reads_bind, reads_set] at rest
    obtain ⟨_, _, rfl, rfl, rfl⟩ := rest
    exact ⟨_, some, takeWhile_all, Nat.le_of_not_lt small, rfl, dropWhile_head, List.takeWhile_append_dropWhile.symm⟩
  · rintro ⟨digits, some, all, small, rfl, ends, here⟩
    refine ⟨(), _, rfl, _, _, ⟨rfl, rfl⟩, ?_⟩
    obtain ⟨word, left⟩ := takeWhile_span all ends
    rw [here, word, left, reads_guard (by simp)]
    refine ⟨some, ?_⟩
    rw [reads_guard (by simp)]
    refine ⟨Nat.not_lt_of_le small, ?_⟩
    simp only [reads_bind, reads_set, reads_pure]
    exact ⟨(), t, rfl, rfl, rfl⟩

/-- A field name that is not quoted: no white space around it, and nothing that ends it. -/
structure PlainField (name : Text) : Prop where
  some : name ≠ []
  plain : ∀ c ∈ name, endsFieldName c = false
  opens : ∀ c ∈ name.head?, c ≠ '\x60' ∧ isSpace c = false
  closes : ∀ c ∈ name.getLast?, isSpace c = false

theorem endsFieldName_space (space : isSpace c = true) : endsFieldName c = false := by
  cases ends : endsFieldName c with
  | false => rfl
  | true =>
      simp only [endsFieldName, Bool.or_eq_true, decide_eq_true_eq] at ends
      rcases ends with ((rfl | rfl) | rfl) | rfl <;> exact absurd space (by decide)

/-- A field name, quoted or up to what ends it. -/
theorem reads_readFieldName {name : Text} : Reads input readFieldName s name t ↔
    ('\x60' ∉ name ∧ skip s = '\x60' :: (name ++ '\x60' :: t)) ∨
      (PlainField name ∧ (∀ c ∈ t.head?, endsFieldName c = true) ∧
        ∃ spaces, Spaces spaces ∧ skip s = name ++ (spaces ++ t)) := by
  unfold readFieldName
  simp only [reads_bind, reads_skipWhitespace, reads_get, reads_read]
  constructor
  · rintro ⟨_, _, rfl, _, _, ⟨rfl, rfl⟩, _, _, ⟨rfl, rfl⟩, rest⟩
    split at rest
    · rename_i quoted here
      split at rest
      · exact absurd rest (by simp)
      · rename_i quote after closed
        simp only [reads_bind, reads_set, reads_pure] at rest
        obtain ⟨_, _, rfl, rfl, rfl⟩ := rest
        have closing : quote = '\x60' := by
          have head := dropWhile_head (s := quoted) quote (by rw [closed]; rfl)
          simpa using head
        refine .inl ⟨?_, ?_⟩
        · intro inside
          have differs := takeWhile_all _ inside
          simp at differs
        · subst closing
          rw [here, ← closed, List.takeWhile_append_dropWhile]
    · rename_i unquoted
      rw [reads_guard (by simp)] at rest
      obtain ⟨some, rest⟩ := rest
      simp only [reads_bind, reads_set, reads_pure] at rest
      obtain ⟨_, _, rfl, rfl, rfl⟩ := rest
      refine .inr ⟨⟨some, ?_, ?_, rdropWhile_last⟩, ?_, ?_⟩
      · intro c member
        simpa using takeWhile_all c (List.rdropWhile_prefix _ _ |>.subset member)
      · intro c member
        have first : c ∈ (skip s).head? := by
          have whole := (List.rdropWhile_prefix isSpace ((skip s).takeWhile fun c => !endsFieldName c)).trans
            (List.takeWhile_prefix _)
          obtain ⟨left, split⟩ := whole
          rw [← split]
          exact List.mem_head?_append_of_mem_head? member
        constructor
        · intro quote
          subst quote
          obtain ⟨rest, here⟩ := List.head?_eq_some_iff.mp first
          exact unquoted _ here
        · exact dropWhile_head c first
      · intro c member
        simpa using dropWhile_head c member
      · obtain ⟨spaces, blank, split⟩ := @exists_trailing _ isSpace ((skip s).takeWhile fun c => !endsFieldName c)
        refine ⟨spaces, blank, ?_⟩
        rw [← List.append_assoc, ← split, List.takeWhile_append_dropWhile]
  · intro field
    refine ⟨(), _, rfl, _, _, ⟨rfl, rfl⟩, _, _, ⟨rfl, rfl⟩, ?_⟩
    rcases field with ⟨plain, here⟩ | ⟨plain, ends, spaces, blank, here⟩
    · have inside : ∀ c ∈ name, decide (c ≠ '\x60') = true := by
        intro c member
        apply decide_eq_true
        rintro rfl
        exact plain member
      have outside : ∀ c ∈ ('\x60' :: t).head?, decide (c ≠ '\x60') = false := by
        intro c member
        cases member
        rfl
      obtain ⟨word, left⟩ := takeWhile_span inside outside
      rw [here]
      simp only [word, left, reads_bind, reads_set, reads_pure]
      exact ⟨(), t, rfl, trivial, rfl⟩
    · have inside : ∀ c ∈ name ++ spaces, (!endsFieldName c) = true := by
        intro c member
        rcases List.mem_append.mp member with word | space
        · rw [plain.plain c word]
          rfl
        · rw [endsFieldName_space (blank c space)]
          rfl
      have outside : ∀ c ∈ t.head?, (!endsFieldName c) = false := by simpa using ends
      obtain ⟨word, left⟩ := takeWhile_span inside outside
      have trimmed := rdropWhile_span blank plain.closes
      have whole : skip s = name ++ spaces ++ t := by rw [here, List.append_assoc]
      rw [whole]
      split
      · rename_i quoted same
        have first : '\x60' ∈ name.head? := by
          cases known : name with
          | nil => exact absurd known plain.some
          | cons head tail =>
              rw [known] at same
              cases same
              rfl
        exact absurd rfl (plain.opens _ first).1
      · rw [word, left, trimmed, reads_guard (by simp)]
        refine ⟨plain.some, ?_⟩
        simp only [reads_bind, reads_set, reads_pure]
        exact ⟨(), t, rfl, trivial, rfl⟩

end DuckGlue.GlueTypeParser
