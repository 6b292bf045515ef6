import Mathlib.Data.List.Basic

/-! # Regular expressions

Expressions of characters, one group and optional parts, with the match a backtracking
search prefers: an optional part is taken where it can be. A replacement goes through
the text from left to right and puts what the group holds in place of each match.
Patterns are read from text in which a backslash makes any character that is no letter,
digit or underscore a literal one.
-/

namespace DuckGlue.RegularExpression

inductive Regex (α : Type) where
  | empty
  | oneOf (characters : List α)
  | seq (first second : Regex α)
  | group (inner : Regex α)
  | optional (inner : Regex α)
  deriving Repr, DecidableEq

namespace Regex

section Matching

variable {α : Type} [DecidableEq α]

/-- The matches at the start of the input, the preferred one first: what the group holds,
nothing where it took no part, and what is left of the input. -/
def matchesAt : Regex α → List α → List α → List (List α × List α)
  | empty, input, held => [(held, input)]
  | oneOf characters, input, held =>
      match input with
      | [] => []
      | c :: rest => if c ∈ characters then [(held, rest)] else []
  | seq first second, input, held =>
      (first.matchesAt input held).flatMap fun found => second.matchesAt found.2 found.1
  | group inner, input, held =>
      (inner.matchesAt input held).map fun found => (input.take (input.length - found.2.length), found.2)
  | optional inner, input, held => inner.matchesAt input held ++ [(held, input)]

/-- The preferred match. -/
def first (regex : Regex α) (input : List α) : Option (List α × List α) := (regex.matchesAt input []).head?

/-- The text with every match replaced by what its group holds; `skip` characters are in
a match already. An empty match puts nothing there. -/
def replaceFrom (regex : Regex α) : Nat → List α → List α
  | _, [] => []
  | skip + 1, _ :: text => regex.replaceFrom skip text
  | 0, c :: text =>
      match regex.first (c :: text) with
      | none => c :: regex.replaceFrom 0 text
      | some (held, rest) =>
          if rest.length ≤ text.length then held ++ regex.replaceFrom (text.length - rest.length) text
          else c :: regex.replaceFrom 0 text

def replaceByGroup (regex : Regex α) (text : List α) : List α := regex.replaceFrom 0 text

variable {regex : Regex α} {c : α} {text held rest : List α}

theorem replaceFrom_append {taken : List α} : regex.replaceFrom taken.length (taken ++ rest) = regex.replaceByGroup rest := by
  induction taken with
  | nil => rfl
  | cons _ taken ih => exact ih

@[simp] theorem replaceByGroup_nil : regex.replaceByGroup [] = [] := rfl

/-- A match that is not empty is replaced, and the rest after it. -/
theorem replaceByGroup_match (taken : List α) (found : regex.first (c :: (taken ++ rest)) = some (held, rest)) :
    regex.replaceByGroup (c :: (taken ++ rest)) = held ++ regex.replaceByGroup rest := by
  have length : (taken ++ rest).length - rest.length = taken.length := by
    rw [List.length_append]
    omega
  unfold replaceByGroup
  rw [replaceFrom, found]
  dsimp only
  rw [if_pos (by rw [List.length_append]; omega), length, replaceFrom_append]
  rfl

/-- A character no match starts at stays. -/
theorem replaceByGroup_none (none : regex.first (c :: text) = none) :
    regex.replaceByGroup (c :: text) = c :: regex.replaceByGroup text := by
  unfold replaceByGroup
  rw [replaceFrom, none]

end Matching

end Regex

/-! ## Patterns -/

/-- A letter, a digit or an underscore. -/
def isWord (c : Char) : Bool := c.isAlphanum || c = '_'

/-- `RE2::QuoteMeta` of one character. -/
def quoteMetaCharacter (c : Char) : List Char :=
  if isWord c || 128 ≤ c.toNat then [c]
  else if c = '\x00' then "\\x00".toList
  else ['\\', c]

/-- `RE2::QuoteMeta` -/
def quoteMeta (text : List Char) : List Char := text.flatMap quoteMetaCharacter

def hexDigit (c : Char) : Option Nat :=
  if c.isDigit then some (c.toNat - '0'.toNat)
  else if 'a' ≤ c ∧ c ≤ 'f' then some (c.toNat - 'a'.toNat + 10)
  else if 'A' ≤ c ∧ c ≤ 'F' then some (c.toNat - 'A'.toNat + 10)
  else none

/-- The parts one after another. -/
def sequence : List (Regex Char) → Regex Char
  | [] => .empty
  | [regex] => regex
  | regex :: regexes => .seq regex (sequence regexes)

/-- What is read of a pattern: the characters of a set that is open, the parts of the
innermost open group and those of the groups around it, the last part first. -/
structure Reading where
  characters : Option (List Char) := none
  parts : List (Regex Char) := []
  outer : List (List (Regex Char)) := []

namespace Reading

variable (reading : Reading)

def literal (c : Char) : Reading :=
  match reading.characters with
  | some characters => { reading with characters := some (characters ++ [c]) }
  | none => { reading with parts := .oneOf [c] :: reading.parts }

/-- A character without a backslash before it, or nothing where it means what is not
read here: alternatives, repetitions, ranges, named sets. -/
def step (c : Char) : Option Reading :=
  match reading.characters with
  | some characters =>
      if c = ']' then
        if characters = [] then none
        else some { reading with characters := none, parts := .oneOf characters :: reading.parts }
      else if c ∈ ['[', '-', '^'] then none
      else some (reading.literal c)
  | none =>
      if c = '[' then some { reading with characters := some [] }
      else if c = '(' then some { reading with parts := [], outer := reading.parts :: reading.outer }
      else if c = ')' then
        match reading.outer with
        | [] => none
        | parts :: outer => some { reading with parts := .group (sequence reading.parts.reverse) :: parts, outer }
      else if c = '?' then
        match reading.parts with
        | [] | .optional _ :: _ => none
        | part :: parts => some { reading with parts := .optional part :: parts }
      else if c ∈ ['.', '*', '+', '{', '|', '^', '$'] then none
      else some (reading.literal c)

/-- The expression of a pattern that is read to its end. -/
def finished : Option (Regex Char) :=
  if reading.characters.isNone && reading.outer.isEmpty then some (sequence reading.parts.reverse) else none

end Reading

/-- What a pattern adds to what is read before it. -/
def readFrom : Reading → List Char → Option Reading
  | reading, [] => some reading
  | reading, c :: pattern =>
      if c = '\\' then
        match pattern with
        | [] => none
        | escaped :: pattern =>
            if escaped = 'x' then
              match pattern with
              | high :: low :: pattern =>
                  match hexDigit high, hexDigit low with
                  | some high, some low => readFrom (reading.literal (Char.ofNat (16 * high + low))) pattern
                  | _, _ => none
              | _ => none
            else if isWord escaped || 128 ≤ escaped.toNat then none
            else readFrom (reading.literal escaped) pattern
      else
        match reading.step c with
        | some reading => readFrom reading pattern
        | none => none

def read (pattern : List Char) : Option (Regex Char) := (readFrom {} pattern).bind (·.finished)

section Quoted

variable {reading : Reading} {c : Char} {pattern text : List Char}

theorem readFrom_step {next : Reading} (notBackslash : c ≠ '\\') (step : reading.step c = some next) :
    readFrom reading (c :: pattern) = readFrom next pattern := by
  rw [readFrom.eq_def]
  dsimp only
  rw [if_neg notBackslash, step]

theorem readFrom_escape (notWord : isWord c = false) (ascii : c.toNat < 128) :
    readFrom reading ('\\' :: c :: pattern) = readFrom (reading.literal c) pattern := by
  have notX : c ≠ 'x' := by
    rintro rfl
    cases notWord
  have literal : ¬ (isWord c || 128 ≤ c.toNat) = true := by simp [notWord, ascii]
  rw [readFrom.eq_def]
  dsimp only
  rw [if_pos rfl, if_neg notX, if_neg literal]

/-- Only characters `QuoteMeta` puts a backslash before mean something else. -/
theorem step_of_word (stays : (isWord c || 128 ≤ c.toNat) = true) : reading.step c = some (reading.literal c) := by
  have differs : ∀ other : Char, (isWord other || 128 ≤ other.toNat) = false → c ≠ other := by
    rintro other special rfl
    rw [stays] at special
    cases special
  unfold Reading.step
  split
  · rw [if_neg (differs _ (by decide)), if_neg]
    simp [differs '[' (by decide), differs '-' (by decide), differs '^' (by decide)]
  · rw [if_neg (differs _ (by decide)), if_neg (differs _ (by decide)), if_neg (differs _ (by decide)),
      if_neg (differs _ (by decide)), if_neg]
    simp [differs '.' (by decide), differs '*' (by decide), differs '+' (by decide), differs '{' (by decide),
      differs '|' (by decide), differs '^' (by decide), differs '$' (by decide)]

/-- A quoted character is read as itself. -/
theorem readFrom_quoteMetaCharacter :
    readFrom reading (quoteMetaCharacter c ++ pattern) = readFrom (reading.literal c) pattern := by
  unfold quoteMetaCharacter
  split_ifs with stays null
  · have notBackslash : c ≠ '\\' := by
      rintro rfl
      exact absurd stays (by decide)
    exact readFrom_step notBackslash (step_of_word stays)
  · rw [null]
    rfl
  · simp only [Bool.or_eq_true, decide_eq_true_eq, not_or] at stays
    exact readFrom_escape (by simpa using stays.1) (by omega)

/-- A quoted text is read as its characters. -/
theorem readFrom_quoteMeta :
    readFrom reading (quoteMeta text ++ pattern) = readFrom (text.foldl Reading.literal reading) pattern := by
  induction text generalizing reading with
  | nil => rfl
  | cons c text ih =>
      rw [quoteMeta, List.flatMap_cons, List.append_assoc, readFrom_quoteMetaCharacter]
      exact ih

end Quoted

end DuckGlue.RegularExpression
