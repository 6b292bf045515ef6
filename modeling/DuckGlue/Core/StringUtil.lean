import DuckGlue.Lib.Segments
import Mathlib.Algebra.GroupWithZero.Nat
import Mathlib.Data.Char
import Mathlib.Data.List.Lex

/-! # Strings and exceptions

Glue answers in JSON, so every string the extension compares is a sequence of
characters. Case folding is ASCII, as `StringUtil::Lower` folds it.
-/

namespace DuckGlue

/-- A C++ `string`. -/
abbrev Text := List Char

/-- A literal of the source as a `Text`. -/
instance : Coe String Text := ⟨String.toList⟩

/-- What holds of the characters of a text is decided over the text, not over every
character there is. -/
instance (priority := 2000) decidableForallMem {P : Char → Prop} [DecidablePred P] (s : Text) :
    Decidable (∀ c ∈ s, P c) := List.decidableBAll P s

/-- The same of the character a text starts or ends with. -/
instance (priority := 2000) decidableForallMemOption {P : Char → Prop} [DecidablePred P] (c : Option Char) :
    Decidable (∀ a ∈ c, P a) := Option.decidableForallMem c

instance lawfulText : LawfulBEq Text := List.instLawfulBEq

instance lawfulTexts : LawfulBEq (List Text) := List.instLawfulBEq

namespace StringUtil

def lower (s : Text) : Text := s.map Char.toLower

def upper (s : Text) : Text := s.map Char.toUpper

/-- `StringUtil::CIEquals` -/
def ciEquals (a b : Text) : Bool := lower a = lower b

def startsWith (s start : Text) : Bool := start.isPrefixOf s

def endsWith (s ending : Text) : Bool := ending.isSuffixOf s

/-- `StringUtil::Contains`: `needle` occurs somewhere in `s`. -/
def contains (s needle : Text) : Bool := s.tails.any (startsWith · needle)

/-- `StringUtil::RTrim` with the one character `c`. -/
def rtrim (s : Text) (c : Char) : Text := Segments.trimEnd c s

/-- `StringUtil::CharacterIsSpace` -/
def isSpace (c : Char) : Bool := c = ' ' || (9 ≤ c.toNat && c.toNat ≤ 13)

/-- `StringUtil::Trim` -/
def trim (s : Text) : Text := (s.dropWhile isSpace).rdropWhile isSpace

/-- `StringUtil::Split`, which reads with `getline`. -/
def split (s : Text) (delimiter : Char) : List Text := Segments.split delimiter s

/-- `std::string::size`: a string is held as UTF-8. -/
def size (s : Text) : Nat := (s.map fun c => c.utf8Size).sum

def join (parts : List Text) (separator : Text) : Text := separator.intercalate parts

theorem lower_append (a b : Text) : lower (a ++ b) = lower a ++ lower b := List.map_append

@[simp] theorem lower_length (s : Text) : (lower s).length = s.length := List.length_map _

@[simp] theorem ciEquals_iff {a b : Text} : ciEquals a b = true ↔ lower a = lower b := by
  simp [ciEquals]

theorem ciEquals_refl (a : Text) : ciEquals a a = true := by simp

theorem ciEquals_congr {a b c : Text} (same : ciEquals a b = true) : ciEquals a c = ciEquals b c := by
  unfold ciEquals
  rw [ciEquals_iff.mp same]

theorem ciEquals_comm {a b : Text} (same : ciEquals a b = true) : ciEquals b a = true :=
  ciEquals_iff.mpr (ciEquals_iff.mp same).symm

@[simp] theorem startsWith_iff {s start : Text} : startsWith s start = true ↔ start <+: s :=
  List.isPrefixOf_iff_prefix

theorem contains_iff {s needle : Text} : contains s needle = true ↔ needle <:+: s := by
  simp only [contains, List.any_eq_true, List.mem_tails, startsWith_iff]
  rw [List.infix_iff_prefix_suffix]
  exact exists_congr fun _ => and_comm

@[simp] theorem endsWith_iff {s ending : Text} : endsWith s ending = true ↔ ending <:+ s :=
  List.isSuffixOf_iff_suffix

/-- A character is in lower case, or its lower case is 32 above it. -/
theorem toLower_cases (c : Char) : c.toLower = c ∨ (65 ≤ c.toNat ∧ c.toNat ≤ 90 ∧ c.toLower.toNat = c.toNat + 32) := by
  by_cases upper : 65 ≤ c.val ∧ c.val ≤ 90
  · right
    have range : 65 ≤ c.toNat ∧ c.toNat ≤ 90 := by simpa [UInt32.le_iff_toNat_le] using upper
    have folded : c.toLower.val = c.val + 32 := by
      delta Char.toLower
      rw [dif_pos (by simpa [UInt32.le_iff_toNat_le] using upper)]
      rfl
    have number : c.toLower.toNat = (c.toNat + 32) % 4294967296 := by
      rw [← Char.toNat_val, folded, UInt32.toNat_add]
      rfl
    omega
  · left
    delta Char.toLower
    rw [dif_neg (by simpa [UInt32.le_iff_toNat_le] using upper)]

theorem lower_lower (s : Text) : lower (lower s) = lower s := by
  unfold lower
  rw [List.map_map]
  apply List.map_congr_left
  intro c _
  rcases toLower_cases c with same | ⟨low, -, folded⟩
  · rw [Function.comp_apply, same, same]
  · rcases toLower_cases c.toLower with same | ⟨-, high, -⟩
    · exact same
    · omega

/-- Only a slash folds to a slash. -/
theorem toLower_eq_slash {c : Char} : c.toLower = '/' ↔ c = '/' := by
  rcases toLower_cases c with same | ⟨low, _, folded⟩
  · rw [same]
  · constructor
    · intro slash
      rw [slash] at folded
      have number : '/'.toNat = 47 := rfl
      omega
    · intro slash
      rw [slash] at low
      exact absurd low (by decide)

end StringUtil

inductive ExceptionType where
  | notImplemented
  | invalidInput
  | binder
  | catalog
  | io
  | transaction
  | internal
  | outOfRange
  deriving Repr, DecidableEq

/-- What a C++ function throws. -/
structure Exception where
  type : ExceptionType
  message : Text
  deriving Repr, DecidableEq

namespace Exception

def notImplemented (message : Text) : Exception := ⟨.notImplemented, message⟩

def invalidInput (message : Text) : Exception := ⟨.invalidInput, message⟩

def binder (message : Text) : Exception := ⟨.binder, message⟩

def catalog (message : Text) : Exception := ⟨.catalog, message⟩

def io (message : Text) : Exception := ⟨.io, message⟩

def internal (message : Text) : Exception := ⟨.internal, message⟩

end Exception

end DuckGlue
