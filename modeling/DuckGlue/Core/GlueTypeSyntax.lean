import DuckGlue.Core.GlueTypeParser

/-! # The texts of Glue types

A text of a type is written with names in any letter case and white space between the
tokens. The parser reads such a text as its type, but for one name that holds spaces.
-/

namespace DuckGlue

open StringUtil GlueTypeParser Parsing

/-- A number after white space. -/
structure NumberSyntax where
  spaces : Text
  digits : Text
  deriving Repr, DecidableEq

namespace NumberSyntax

variable (number : NumberSyntax)

def text : Text := number.spaces ++ number.digits

def value : ℕ := numberOf number.digits

structure WellFormed : Prop where
  spaces : Spaces number.spaces
  some : number.digits ≠ []
  digits : ∀ c ∈ number.digits, c.isDigit = true

/-- `stoll` reads it. -/
def Fits : Prop := number.value ≤ 9223372036854775807

instance : Decidable number.Fits := inferInstanceAs (Decidable (number.value ≤ 9223372036854775807))

end NumberSyntax

/-- `(width)` or `(width, scale)`, with the white space before the bracket, the comma and
the closing bracket. -/
structure DecimalSyntax where
  opens : Text
  width : NumberSyntax
  scale : Option (Text × NumberSyntax)
  closes : Text
  deriving Repr, DecidableEq

namespace DecimalSyntax

variable (arguments : DecimalSyntax)

def scaleText : Option (Text × NumberSyntax) → Text
  | none => []
  | some (comma, scale) => comma ++ ',' :: scale.text

def text : Text :=
  arguments.opens ++ '(' :: (arguments.width.text ++ (scaleText arguments.scale ++ (arguments.closes ++ [')'])))

def scaleValue : ℕ := (arguments.scale.map fun scale => scale.2.value).getD 0

structure WellFormed : Prop where
  opens : Spaces arguments.opens
  width : arguments.width.WellFormed
  scale : ∀ scale ∈ arguments.scale, Spaces scale.1 ∧ scale.2.WellFormed
  closes : Spaces arguments.closes
  bounds : 1 ≤ arguments.width.value ∧ arguments.width.value ≤ maxWidthDecimal ∧
    arguments.scaleValue ≤ arguments.width.value

end DecimalSyntax

/-- `(length)` -/
structure LengthSyntax where
  opens : Text
  number : NumberSyntax
  closes : Text
  deriving Repr, DecidableEq

namespace LengthSyntax

variable (length : LengthSyntax)

def text : Text := length.opens ++ '(' :: (length.number.text ++ (length.closes ++ [')']))

structure WellFormed : Prop where
  opens : Spaces length.opens
  number : length.number.WellFormed
  closes : Spaces length.closes

end LengthSyntax

/-- A field name and its colon. -/
structure FieldSyntax where
  spaces : Text
  quoted : Bool
  name : Text
  colon : Text
  deriving Repr, DecidableEq

namespace FieldSyntax

variable (field : FieldSyntax)

def text : Text :=
  field.spaces ++ ((if field.quoted then '\x60' :: (field.name ++ ['\x60']) else field.name) ++ (field.colon ++ [':']))

structure WellFormed : Prop where
  spaces : Spaces field.spaces
  name : if field.quoted then '\x60' ∉ field.name else PlainField field.name
  colon : Spaces field.colon

end FieldSyntax

mutual

/-- A type as it is written: each token with the white space before it. -/
inductive TypeSyntax where
  | leaf (spaces name : Text)
  | decimal (spaces name : Text) (arguments : Option DecimalSyntax)
  | characters (spaces name : Text) (length : Option LengthSyntax)
  | array (spaces name opens : Text) (child : TypeSyntax) (closes : Text)
  | map (spaces name opens : Text) (key : TypeSyntax) (comma : Text) (value : TypeSyntax) (closes : Text)
  | struct (spaces name opens : Text) (fields : FieldsSyntax) (closes : Text)

inductive FieldsSyntax where
  | last (field : FieldSyntax) (type : TypeSyntax)
  | cons (field : FieldSyntax) (type : TypeSyntax) (comma : Text) (rest : FieldsSyntax)

end

mutual

def TypeSyntax.text : TypeSyntax → Text
  | .leaf spaces name => spaces ++ name
  | .decimal spaces name arguments => spaces ++ (name ++ (arguments.map DecimalSyntax.text).getD [])
  | .characters spaces name length => spaces ++ (name ++ (length.map LengthSyntax.text).getD [])
  | .array spaces name opens child closes => spaces ++ (name ++ (opens ++ '<' :: (child.text ++ (closes ++ ['>']))))
  | .map spaces name opens key comma value closes =>
      spaces ++ (name ++ (opens ++ '<' :: (key.text ++ (comma ++ ',' :: (value.text ++ (closes ++ ['>']))))))
  | .struct spaces name opens fields closes => spaces ++ (name ++ (opens ++ '<' :: (fields.text ++ (closes ++ ['>']))))

def FieldsSyntax.text : FieldsSyntax → Text
  | .last field type => field.text ++ type.text
  | .cons field type comma rest => field.text ++ (type.text ++ (comma ++ ',' :: rest.text))

end

mutual

/-- The type a text stands for. -/
def TypeSyntax.type : TypeSyntax → LogicalType
  | .leaf _ name => (leafTypes.lookup (lower name)).getD (.unsupported name)
  | .decimal _ _ none => .decimal 10 0
  | .decimal _ _ (some arguments) => .decimal arguments.width.value arguments.scaleValue
  | .characters _ _ _ => .varchar
  | .array _ _ _ child _ => .list child.type
  | .map _ _ _ key _ value _ => .map key.type value.type
  | .struct _ _ _ fields _ => .struct fields.types

def FieldsSyntax.types : FieldsSyntax → List (Text × LogicalType)
  | .last field type => [(field.name, type.type)]
  | .cons field type _ rest => (field.name, type.type) :: rest.types

end

mutual

/-- The names are ones `ParseType` compares with, in any letter case, and what stands
between tokens is white space. -/
def TypeSyntax.WellFormed : TypeSyntax → Prop
  | .leaf spaces name => Spaces spaces ∧ (leafTypes.lookup (lower name)).isSome
  | .decimal spaces name arguments => Spaces spaces ∧
      (lower name = "decimal".toList ∨ lower name = "numeric".toList) ∧ ∀ given ∈ arguments, given.WellFormed
  | .characters spaces name length => Spaces spaces ∧
      (lower name = "varchar".toList ∨ lower name = "char".toList) ∧ ∀ given ∈ length, given.WellFormed
  | .array spaces name opens child closes =>
      Spaces spaces ∧ lower name = "array".toList ∧ Spaces opens ∧ child.WellFormed ∧ Spaces closes
  | .map spaces name opens key comma value closes =>
      Spaces spaces ∧ lower name = "map".toList ∧ Spaces opens ∧ key.WellFormed ∧ Spaces comma ∧ value.WellFormed ∧
        Spaces closes
  | .struct spaces name opens fields closes =>
      Spaces spaces ∧ lower name = "struct".toList ∧ Spaces opens ∧ fields.WellFormed ∧ Spaces closes

def FieldsSyntax.WellFormed : FieldsSyntax → Prop
  | .last field type => field.WellFormed ∧ type.WellFormed
  | .cons field type comma rest => field.WellFormed ∧ type.WellFormed ∧ Spaces comma ∧ rest.WellFormed

end

mutual

/-- No leaf is spelled `timestamp with time zone`, and no length is beyond 64 bits. -/
def TypeSyntax.Readable : TypeSyntax → Prop
  | .leaf _ name => lower name ≠ "timestamp with time zone".toList
  | .decimal _ _ _ => True
  | .characters _ _ length => ∀ given ∈ length, given.number.Fits
  | .array _ _ _ child _ => child.Readable
  | .map _ _ _ key _ value _ => key.Readable ∧ value.Readable
  | .struct _ _ _ fields _ => fields.Readable

def FieldsSyntax.Readable : FieldsSyntax → Prop
  | .last _ type => type.Readable
  | .cons _ type _ rest => type.Readable ∧ rest.Readable

end

namespace GlueTypeParser

variable {input s t u : Text} {c : Char}

/-- What is left after white space, if it is not white space itself. -/
theorem skip_eq_iff (visible : ∀ c ∈ u.head?, isSpace c = false) :
    skip s = u ↔ ∃ spaces, Spaces spaces ∧ s = spaces ++ u := by
  constructor
  · rintro rfl
    exact exists_spaces s
  · rintro ⟨spaces, blank, rfl⟩
    rw [skip_spaces blank, skip, dropWhile_of_head visible]

theorem skip_eq_cons (visible : isSpace c = false) : skip s = c :: t ↔ ∃ spaces, Spaces spaces ∧ s = spaces ++ c :: t := by
  apply skip_eq_iff
  intro d first
  cases first
  exact visible

theorem isSpace_of_isDigit (digit : c.isDigit = true) : isSpace c = false := by
  simp only [Char.isDigit, Bool.and_eq_true, decide_eq_true_eq] at digit
  have small : 48 ≤ c.toNat := by simpa [UInt32.le_iff_toNat_le] using digit.1
  cases space : isSpace c with
  | false => rfl
  | true =>
      simp only [isSpace, Bool.or_eq_true, Bool.and_eq_true, decide_eq_true_eq] at space
      rcases space with rfl | range
      · exact absurd small (by decide)
      · omega

theorem skip_number {number : NumberSyntax} (wf : number.WellFormed) : skip (number.text ++ t) = number.digits ++ t := by
  rw [NumberSyntax.text, List.append_assoc, skip_spaces wf.spaces]
  apply dropWhile_of_head
  intro c first
  cases known : number.digits with
  | nil => exact absurd known wf.some
  | cons digit digits =>
      rw [known] at first
      cases first
      exact isSpace_of_isDigit (wf.digits _ (by rw [known]; exact List.mem_cons_self))

theorem reads_number {n : ℕ} : Reads input readInteger s n t ↔ ∃ number : NumberSyntax, number.WellFormed ∧ number.Fits ∧
    n = number.value ∧ s = number.text ++ t ∧ ∀ c ∈ t.head?, c.isDigit = false := by
  rw [reads_readInteger]
  constructor
  · rintro ⟨digits, some, all, small, rfl, ends, here⟩
    obtain ⟨spaces, blank, split⟩ := exists_spaces s
    refine ⟨⟨spaces, digits⟩, ⟨blank, some, all⟩, small, rfl, ?_, ends⟩
    rw [NumberSyntax.text, List.append_assoc, ← here]
    exact split
  · rintro ⟨number, wf, small, rfl, rfl, ends⟩
    exact ⟨number.digits, wf.some, wf.digits, small, rfl, ends, skip_number wf⟩

/-- A bracket after white space. -/
theorem reads_bracket {x : Unit} (visible : isSpace c = false) :
    Reads input (expect c) s x t ↔ ∃ spaces, Spaces spaces ∧ s = spaces ++ c :: t := by
  rw [reads_expect, skip_eq_cons visible]

theorem isDigit_of_spaces {spaces : Text} (blank : Spaces spaces) (other : c.isDigit = false) :
    ∀ d ∈ (spaces ++ c :: t).head?, d.isDigit = false := by
  intro d first
  cases spaces with
  | nil =>
      cases first
      exact other
  | cons space spaces =>
      cases first
      cases digit : d.isDigit with
      | false => rfl
      | true =>
          have blankHere := blank d List.mem_cons_self
          rw [isSpace_of_isDigit digit] at blankHere
          cases blankHere

/-- The rest of `varchar` and `char`. -/
theorem reads_length {type : LogicalType} : Reads input (do
      if ← peek '(' then
        advance
        let _ ← readInteger
        expect ')'
      return LogicalType.varchar) s type t ↔ type = .varchar ∧
    ((∃ length : LengthSyntax, length.WellFormed ∧ length.number.Fits ∧ s = length.text ++ t) ∨
      (skip s).head? ≠ some '(' ∧ skip s = t) := by
  rw [reads_bind]
  constructor
  · rintro ⟨found, u, peeked, rest⟩
    obtain ⟨rfl, rfl⟩ := reads_peek.mp peeked
    by_cases here : (skip s).head? = some '('
    · simp only [here, decide_true, if_true, reads_bind, reads_advance, reads_pure] at rest
      obtain ⟨_, _, rfl, n, v, numbered, _, w, closed, rfl, rfl⟩ := rest
      obtain ⟨number, wf, fits, -, split, -⟩ := reads_number.mp numbered
      obtain ⟨closes, blank, rfl⟩ := (reads_bracket (by decide)).mp closed
      obtain ⟨tail, shape⟩ := List.head?_eq_some_iff.mp here
      obtain ⟨opens, opensBlank, whole⟩ := (skip_eq_cons (by decide)).mp shape
      rw [shape, List.tail_cons] at split
      refine ⟨rfl, .inl ⟨⟨opens, number, closes⟩, ⟨opensBlank, wf, blank⟩, fits, ?_⟩⟩
      rw [whole, split, LengthSyntax.text]
      simp only [List.append_assoc, List.cons_append, List.nil_append]
    · simp only [here, decide_false, Bool.false_eq_true, if_false, reads_pure] at rest
      obtain ⟨rfl, rfl⟩ := rest
      exact ⟨rfl, .inr ⟨here, rfl⟩⟩
  · rintro ⟨rfl, ⟨length, wf, fits, rfl⟩ | ⟨here, rfl⟩⟩
    · have shape : skip (length.text ++ t) = '(' :: (length.number.text ++ (length.closes ++ ')' :: t)) := by
        rw [skip_eq_cons (by decide)]
        refine ⟨length.opens, wf.opens, ?_⟩
        rw [LengthSyntax.text]
        simp only [List.append_assoc, List.cons_append, List.nil_append]
      refine ⟨true, _, reads_peek.mpr ⟨by rw [shape]; rfl, rfl⟩, ?_⟩
      simp only [if_true, reads_bind, reads_advance, reads_pure]
      refine ⟨(), _, rfl, length.number.value, length.closes ++ ')' :: t, ?_, (), t, ?_, trivial, rfl⟩
      · rw [reads_number, shape]
        exact ⟨length.number, wf.number, fits, rfl, rfl, isDigit_of_spaces wf.closes (by decide)⟩
      · rw [reads_bracket (by decide)]
        exact ⟨length.closes, wf.closes, rfl⟩
    · refine ⟨false, _, reads_peek.mpr ⟨decide_eq_false here, rfl⟩, ?_⟩
      simp

/-- The scale, if there is one, and the closing bracket. -/
theorem reads_scale {scale : ℕ} : (∃ found u, Reads input (peek ',') s found u ∧
      Reads input (if found then do advance; readInteger else pure 0) u scale t) ↔
    (∃ comma number, Spaces comma ∧ NumberSyntax.WellFormed number ∧ number.Fits ∧ scale = number.value ∧
        s = comma ++ ',' :: (number.text ++ t) ∧ ∀ c ∈ t.head?, c.isDigit = false) ∨
      (skip s).head? ≠ some ',' ∧ scale = 0 ∧ skip s = t := by
  constructor
  · rintro ⟨found, u, peeked, rest⟩
    obtain ⟨rfl, rfl⟩ := reads_peek.mp peeked
    by_cases here : (skip s).head? = some ','
    · simp only [here, decide_true, if_true, reads_bind, reads_advance] at rest
      obtain ⟨_, _, rfl, numbered⟩ := rest
      obtain ⟨number, wf, fits, value, split, ends⟩ := reads_number.mp numbered
      obtain ⟨tail, shape⟩ := List.head?_eq_some_iff.mp here
      obtain ⟨comma, blank, whole⟩ := (skip_eq_cons (by decide)).mp shape
      rw [shape, List.tail_cons] at split
      rw [split] at whole
      exact .inl ⟨comma, number, blank, wf, fits, value, whole, ends⟩
    · simp only [here, decide_false, Bool.false_eq_true, if_false, reads_pure] at rest
      exact .inr ⟨here, rest.1.symm, rest.2⟩
  · rintro (⟨comma, number, blank, wf, fits, rfl, rfl, ends⟩ | ⟨here, rfl, rfl⟩)
    · have shape : skip (comma ++ ',' :: (number.text ++ t)) = ',' :: (number.text ++ t) := by
        rw [skip_eq_cons (by decide)]
        exact ⟨comma, blank, rfl⟩
      refine ⟨true, _, reads_peek.mpr ⟨by rw [shape]; rfl, rfl⟩, ?_⟩
      simp only [if_true, reads_bind, reads_advance]
      refine ⟨(), _, rfl, ?_⟩
      rw [reads_number, shape]
      exact ⟨number, wf, fits, rfl, rfl, ends⟩
    · refine ⟨false, _, reads_peek.mpr ⟨decide_eq_false here, rfl⟩, ?_⟩
      simp

theorem reads_bounded {width scale : ℕ} {type : LogicalType} {message : Text → Exception} :
    Reads input (if (decide (width < 1) || decide (width > maxWidthDecimal) || decide (scale > width)) = true then do
        let whole ← read
        throw (message whole)
        pure (LogicalType.decimal width scale)
      else pure (LogicalType.decimal width scale) : GlueTypeParser LogicalType) s type t ↔
    (1 ≤ width ∧ width ≤ maxWidthDecimal ∧ scale ≤ width) ∧ type = .decimal width scale ∧ s = t := by
  rw [reads_guard, reads_pure, eq_comm (a := type)]
  · apply and_congr_left
    intro _
    simp only [Bool.or_eq_true, decide_eq_true_eq]
    omega
  · exact fun _ _ => reads_refusal

/-- The rest of `decimal` and `numeric`. -/
theorem reads_parseDecimal {type : LogicalType} : Reads input parseDecimal s type t ↔
    (∃ arguments : DecimalSyntax, arguments.WellFormed ∧ s = arguments.text ++ t ∧
        type = .decimal arguments.width.value arguments.scaleValue) ∨
      (skip s).head? ≠ some '(' ∧ skip s = t ∧ type = .decimal 10 0 := by
  unfold parseDecimal
  rw [reads_bind]
  constructor
  · rintro ⟨found, u, peeked, rest⟩
    obtain ⟨rfl, rfl⟩ := reads_peek.mp peeked
    by_cases here : (skip s).head? = some '('
    · simp only [here, decide_true, if_true, reads_bind, reads_advance] at rest
      obtain ⟨_, _, rfl, width, v, numbered, found, w, peekedComma, rest⟩ := rest
      have scaled : ∃ scale x y, Reads input (if found then do advance; readInteger else pure 0) w scale x ∧
          skip x = ')' :: y ∧ (1 ≤ width ∧ width ≤ maxWidthDecimal ∧ scale ≤ width) ∧ type = .decimal width scale ∧
            y = t := by
        cases found with
        | true =>
            simp only [if_true, reads_bind, reads_advance, reads_expect, reads_pure] at rest
            obtain ⟨_, _, rfl, scale, x, read, _, y, closed, _, _, ⟨rfl, rfl⟩, bounded⟩ := rest
            exact ⟨scale, x, y, by simpa using read, closed, reads_bounded.mp bounded⟩
        | false =>
            simp only [Bool.false_eq_true, if_false, reads_bind, reads_expect, reads_pure] at rest
            obtain ⟨_, _, ⟨rfl, rfl⟩, _, y, closed, _, _, ⟨rfl, rfl⟩, bounded⟩ := rest
            exact ⟨0, w, y, by simp, closed, reads_bounded.mp bounded⟩
      obtain ⟨scale, x, y, scaled, closed, bounds, rfl, rfl⟩ := scaled
      obtain ⟨widthNumber, wf, -, rfl, split, -⟩ := reads_number.mp numbered
      obtain ⟨tail, shape⟩ := List.head?_eq_some_iff.mp here
      obtain ⟨opens, blank, whole⟩ := (skip_eq_cons (by decide)).mp shape
      rw [shape, List.tail_cons] at split
      have closing : isSpace ')' = false := by decide
      rcases reads_scale.mp ⟨found, w, peekedComma, scaled⟩ with ⟨comma, number, commaBlank, scaleWf, -, rfl, after, -⟩ | ⟨-, rfl, after⟩
      · obtain ⟨closes, closesBlank, rfl⟩ := (skip_eq_cons closing).mp closed
        refine .inl ⟨⟨opens, widthNumber, some (comma, number), closes⟩, ⟨blank, wf, ?_, closesBlank, bounds⟩, ?_, rfl⟩
        · intro given here
          cases here
          exact ⟨commaBlank, scaleWf⟩
        · rw [whole, split, after, DecimalSyntax.text, DecimalSyntax.scaleText]
          simp only [List.append_assoc, List.cons_append, List.nil_append]
      · rw [← after, skip_skip] at closed
        obtain ⟨closes, closesBlank, last⟩ := (skip_eq_cons closing).mp closed
        refine .inl ⟨⟨opens, widthNumber, none, closes⟩, ⟨blank, wf, by simp, closesBlank, bounds⟩, ?_, rfl⟩
        rw [whole, split, last, DecimalSyntax.text, DecimalSyntax.scaleText]
        simp only [List.append_assoc, List.cons_append, List.nil_append]
    · simp only [here, decide_false, Bool.false_eq_true, if_false, reads_bind, reads_pure] at rest
      obtain ⟨_, _, ⟨rfl, rfl⟩, bounded⟩ := rest
      obtain ⟨-, rfl, rfl⟩ := reads_bounded.mp bounded
      exact .inr ⟨here, rfl, rfl⟩
  · rintro (⟨arguments, wf, rfl, rfl⟩ | ⟨here, rfl, rfl⟩)
    · have shape : skip (arguments.text ++ t) = '(' ::
          (arguments.width.text ++ (DecimalSyntax.scaleText arguments.scale ++ (arguments.closes ++ ')' :: t))) := by
        rw [skip_eq_cons (by decide)]
        refine ⟨arguments.opens, wf.opens, ?_⟩
        rw [DecimalSyntax.text]
        simp only [List.append_assoc, List.cons_append, List.nil_append]
      have fits : arguments.width.Fits ∧ ∀ given ∈ arguments.scale, given.2.Fits := by
        obtain ⟨-, small, scale⟩ := wf.bounds
        unfold maxWidthDecimal at small
        refine ⟨by unfold NumberSyntax.Fits; omega, fun given here => ?_⟩
        have value : arguments.scaleValue = given.2.value := by rw [DecimalSyntax.scaleValue, here]; rfl
        unfold NumberSyntax.Fits
        omega
      have closing : ∀ d ∈ (arguments.closes ++ ')' :: t).head?, d.isDigit = false :=
        isDigit_of_spaces wf.closes (by decide)
      have scaled : ∃ found u x, Reads input (peek ',') (DecimalSyntax.scaleText arguments.scale ++
          (arguments.closes ++ ')' :: t)) found u ∧
            Reads input (if found then do advance; readInteger else pure 0) u arguments.scaleValue x ∧
            skip x = ')' :: t := by
        have closed : skip (arguments.closes ++ ')' :: t) = ')' :: t := by
          rw [skip_eq_cons (by decide)]
          exact ⟨_, wf.closes, rfl⟩
        cases given : arguments.scale with
        | none =>
            have value : arguments.scaleValue = 0 := by rw [DecimalSyntax.scaleValue, given]; rfl
            obtain ⟨found, u, peeked, read⟩ := (@reads_scale input _ _ 0).mpr
              (.inr ⟨by rw [closed]; simp, rfl, closed⟩)
            exact ⟨found, u, _, peeked, value ▸ read, closed ▸ skip_skip _⟩
        | some scale =>
            have value : arguments.scaleValue = scale.2.value := by rw [DecimalSyntax.scaleValue, given]; rfl
            obtain ⟨blank, scaleWf⟩ := wf.scale scale given
            obtain ⟨found, u, peeked, read⟩ := (@reads_scale input _ _ scale.2.value).mpr
              (.inl ⟨scale.1, scale.2, blank, scaleWf, fits.2 scale given, rfl, rfl, closing⟩)
            refine ⟨found, u, _, ?_, value ▸ read, closed⟩
            rw [DecimalSyntax.scaleText, List.append_assoc, List.cons_append]
            exact peeked
      have numbered : Reads input readInteger (skip (arguments.text ++ t)).tail arguments.width.value
          (DecimalSyntax.scaleText arguments.scale ++ (arguments.closes ++ ')' :: t)) := by
        rw [reads_number, shape]
        refine ⟨arguments.width, wf.width, fits.1, rfl, rfl, ?_⟩
        cases given : arguments.scale with
        | none => exact closing
        | some scale =>
            rw [DecimalSyntax.scaleText, List.append_assoc, List.cons_append]
            exact isDigit_of_spaces (wf.scale scale given).1 (by decide)
      obtain ⟨found, u, x, peeked, read, closed⟩ := scaled
      refine ⟨true, _, reads_peek.mpr ⟨by rw [shape]; rfl, rfl⟩, ?_⟩
      simp only [if_true, reads_bind, reads_advance]
      refine ⟨(), _, rfl, _, _, numbered, found, u, peeked, ?_⟩
      cases found with
      | true =>
          simp only [if_true, reads_bind, reads_advance, reads_expect, reads_pure] at read ⊢
          obtain ⟨_, _, rfl, scaleRead⟩ := read
          exact ⟨(), _, rfl, _, x, scaleRead, (), t, closed, _, t, ⟨rfl, rfl⟩, reads_bounded.mpr ⟨wf.bounds, rfl, rfl⟩⟩
      | false =>
          simp only [Bool.false_eq_true, if_false, reads_bind, reads_expect, reads_pure] at read ⊢
          obtain ⟨none, rfl⟩ := read
          refine ⟨0, _, ⟨rfl, rfl⟩, (), t, closed, _, t, ⟨rfl, rfl⟩, reads_bounded.mpr ⟨?_, ?_, rfl⟩⟩
          · rw [none]
            exact wf.bounds
          · rw [none]
    · refine ⟨false, _, reads_peek.mpr ⟨decide_eq_false here, rfl⟩, ?_⟩
      simp only [Bool.false_eq_true, if_false, reads_bind, reads_pure]
      exact ⟨(10, 0), _, ⟨rfl, rfl⟩, reads_bounded.mpr ⟨by decide, rfl, rfl⟩⟩

/-- A field name with its colon. -/
theorem reads_field {name : Text} : (∃ u, Reads input readFieldName s name u ∧ skip u = ':' :: t) ↔
    ∃ field : FieldSyntax, field.WellFormed ∧ field.name = name ∧ s = field.text ++ t := by
  constructor
  · rintro ⟨u, read, colon⟩
    obtain ⟨spaces, blank, split⟩ := exists_spaces s
    rcases reads_readFieldName.mp read with ⟨plain, here⟩ | ⟨plain, ends, trailing, trailingBlank, here⟩
    · obtain ⟨before, beforeBlank, rfl⟩ := (skip_eq_cons (by decide)).mp colon
      refine ⟨⟨spaces, true, name, before⟩, ⟨blank, plain, beforeBlank⟩, rfl, ?_⟩
      rw [here] at split
      rw [split, FieldSyntax.text]
      simp only [if_true, List.append_assoc, List.cons_append, List.nil_append]
    · have visible : ∀ c ∈ u.head?, isSpace c = false := by
        intro c first
        cases space : isSpace c with
        | false => rfl
        | true =>
            have stops := ends c first
            rw [endsFieldName_space space] at stops
            cases stops
      rw [skip, dropWhile_of_head visible] at colon
      subst colon
      refine ⟨⟨spaces, false, name, trailing⟩, ⟨blank, plain, trailingBlank⟩, rfl, ?_⟩
      rw [here] at split
      rw [split, FieldSyntax.text]
      simp only [Bool.false_eq_true, if_false, List.append_assoc, List.cons_append, List.nil_append]
  · rintro ⟨field, wf, rfl, rfl⟩
    obtain ⟨spaces, quoted, name, colon⟩ := field
    have colonRest : skip (colon ++ ':' :: t) = ':' :: t := (skip_eq_cons (by decide)).mpr ⟨colon, wf.colon, rfl⟩
    cases quoted with
    | true =>
        have plain : '\x60' ∉ name := wf.name
        refine ⟨colon ++ ':' :: t, reads_readFieldName.mpr (.inl ⟨plain, ?_⟩), colonRest⟩
        rw [FieldSyntax.text, List.append_assoc, skip_spaces wf.spaces]
        simp only [if_true, List.append_assoc, List.cons_append, List.nil_append]
        exact skip_cons (by decide) _
    | false =>
        have plain : PlainField name := wf.name
        refine ⟨':' :: t, reads_readFieldName.mpr (.inr ⟨plain, ?_, colon, wf.colon, ?_⟩), skip_cons (by decide) _⟩
        · intro c first
          cases first
          rfl
        · rw [FieldSyntax.text, List.append_assoc, skip_spaces wf.spaces]
          simp only [Bool.false_eq_true, if_false, List.append_assoc, List.cons_append, List.nil_append]
          apply dropWhile_of_head
          intro c first
          cases known : name with
          | nil => exact absurd known plain.some
          | cons head tail =>
              rw [known] at first
              cases first
              exact (plain.opens c (by rw [known]; rfl)).2

/-- Letter case does not matter for where a name ends. -/
theorem endsIdentifier_toLower (c : Char) : endsIdentifier c.toLower = endsIdentifier c := by
  rcases toLower_cases c with same | ⟨low, high, folded⟩
  · rw [same]
  · have letter : ∀ d : Char, 65 ≤ d.toNat → d.toNat ≤ 122 → endsIdentifier d = false := by
      intro d low high
      cases ends : endsIdentifier d with
      | false => rfl
      | true =>
          simp only [endsIdentifier, isSpace, Bool.or_eq_true, Bool.and_eq_true, decide_eq_true_eq] at ends
          rcases ends with (((((rfl | rfl) | rfl) | rfl) | rfl) | rfl) | rfl | range
          all_goals first | omega | exact absurd low (by decide)
    rw [letter c low (by omega), letter _ (by omega) (by omega)]

/-- A name in any letter case ends where the name does. -/
theorem name_plain {name keyword : Text} (spelled : lower name = keyword)
    (plain : ∀ c ∈ keyword, endsIdentifier c = false) : ∀ c ∈ name, endsIdentifier c = false := by
  intro c member
  rw [← endsIdentifier_toLower]
  exact plain _ (spelled ▸ List.mem_map_of_mem member)

theorem isSpace_endsIdentifier (space : isSpace c = true) : endsIdentifier c = true := by
  unfold endsIdentifier
  rw [space, Bool.or_true]

theorem reads_name {spaces name rest : Text} (blank : Spaces spaces) (some : name ≠ [])
    (plain : ∀ c ∈ name, endsIdentifier c = false) (ends : ∀ c ∈ rest.head?, endsIdentifier c = true) :
    Reads input readIdentifier (spaces ++ (name ++ rest)) name rest := by
  rw [reads_readIdentifier, skip_spaces blank]
  refine ⟨some, plain, ends, dropWhile_of_head ?_⟩
  intro c first
  cases known : name with
  | nil => exact absurd known some
  | cons head tail =>
      rw [known] at first
      cases first
      cases space : isSpace c with
      | false => rfl
      | true =>
          have stops := plain c (by rw [known]; exact List.mem_cons_self)
          rw [isSpace_endsIdentifier space] at stops
          cases stops

/-- What is read after a name in lower case. -/
inductive NamedType (input : Text) (fuel : ℕ) (name u : Text) : LogicalType → Text → Prop where
  | array {child : LogicalType} {v w t : Text} : name = "array".toList → skip u = '<' :: v → Reads input (parseType fuel) v child w →
      skip w = '>' :: t → NamedType input fuel name u (.list child) t
  | map {key value : LogicalType} {v w x y t : Text} : name = "map".toList → skip u = '<' :: v → Reads input (parseType fuel) v key w →
      skip w = ',' :: x → Reads input (parseType fuel) x value y → skip y = '>' :: t →
      NamedType input fuel name u (.map key value) t
  | struct {fields : List (Text × LogicalType)} {v w t : Text} : name = "struct".toList → skip u = '<' :: v → Reads input (parseFields fuel) v fields w →
      skip w = '>' :: t → NamedType input fuel name u (.struct fields) t
  | decimal {type : LogicalType} {t : Text} : name = "decimal".toList ∨ name = "numeric".toList → Reads input parseDecimal u type t →
      NamedType input fuel name u type t
  | characters {t : Text} : name = "varchar".toList ∨ name = "char".toList →
      ((∃ length : LengthSyntax, length.WellFormed ∧ length.number.Fits ∧ u = length.text ++ t) ∨
        (skip u).head? ≠ some '(' ∧ skip u = t) → NamedType input fuel name u .varchar t
  | leaf {type : LogicalType} : leafTypes.lookup name = some type → NamedType input fuel name u type u

theorem reads_parseType {fuel : ℕ} {type : LogicalType} : Reads input (parseType (fuel + 1)) s type t ↔
    ∃ name u, Reads input readIdentifier s name u ∧ NamedType input fuel (lower name) u type t := by
  unfold parseType
  rw [reads_bind]
  apply exists_congr
  intro name
  apply exists_congr
  intro u
  apply and_congr_right
  intro _
  generalize lower name = folded
  dsimp only
  constructor
  · intro read
    by_cases array : folded = "array".toList
    · rw [if_pos array] at read
      simp only [reads_bind, reads_expect, reads_pure] at read
      obtain ⟨_, v, opens, child, w, inner, _, _, closes, rfl, rfl⟩ := read
      exact .array array opens inner closes
    rw [if_neg array] at read
    by_cases map : folded = "map".toList
    · rw [if_pos map] at read
      simp only [reads_bind, reads_expect, reads_pure] at read
      obtain ⟨_, v, opens, key, w, keyRead, _, x, comma, value, y, valueRead, _, _, closes, rfl, rfl⟩ := read
      exact .map map opens keyRead comma valueRead closes
    rw [if_neg map] at read
    by_cases struct : folded = "struct".toList
    · rw [if_pos struct] at read
      simp only [reads_bind, reads_expect, reads_pure] at read
      obtain ⟨_, v, opens, fields, w, inner, _, _, closes, rfl, rfl⟩ := read
      exact .struct struct opens inner closes
    rw [if_neg struct] at read
    by_cases decimal : (decide (folded = "decimal".toList) || decide (folded = "numeric".toList)) = true
    · rw [if_pos decimal] at read
      rw [Bool.or_eq_true, decide_eq_true_eq, decide_eq_true_eq] at decimal
      exact .decimal decimal read
    rw [if_neg decimal] at read
    by_cases characters : (decide (folded = "varchar".toList) || decide (folded = "char".toList)) = true
    · rw [if_pos characters] at read
      rw [Bool.or_eq_true, decide_eq_true_eq, decide_eq_true_eq] at characters
      obtain ⟨rfl, length⟩ := reads_length.mp read
      exact .characters characters length
    rw [if_neg characters] at read
    cases leaf : leafTypes.lookup folded with
    | none =>
        rw [leaf] at read
        simp only [reads_bind] at read
        obtain ⟨_, _, _, thrown⟩ := read
        exact absurd thrown reads_throw
    | some type =>
        rw [leaf] at read
        obtain ⟨rfl, rfl⟩ := reads_pure.mp read
        exact .leaf leaf
  · intro named
    cases named with
    | array array opens inner closes =>
        rw [if_pos array]
        simp only [reads_bind, reads_expect, reads_pure]
        exact ⟨(), _, opens, _, _, inner, (), t, closes, rfl, rfl⟩
    | map map opens keyRead comma valueRead closes =>
        rw [if_neg (by rw [map]; decide), if_pos map]
        simp only [reads_bind, reads_expect, reads_pure]
        exact ⟨(), _, opens, _, _, keyRead, (), _, comma, _, _, valueRead, (), t, closes, rfl, rfl⟩
    | struct struct opens inner closes =>
        rw [if_neg (by rw [struct]; decide), if_neg (by rw [struct]; decide), if_pos struct]
        simp only [reads_bind, reads_expect, reads_pure]
        exact ⟨(), _, opens, _, _, inner, (), t, closes, rfl, rfl⟩
    | decimal decimal read =>
        have other : folded ≠ "array".toList ∧ folded ≠ "map".toList ∧ folded ≠ "struct".toList := by
          rcases decimal with rfl | rfl <;> decide
        rw [if_neg other.1, if_neg other.2.1, if_neg other.2.2, if_pos]
        · exact read
        · rw [Bool.or_eq_true, decide_eq_true_eq, decide_eq_true_eq]
          exact decimal
    | characters characters length =>
        have other : folded ≠ "array".toList ∧ folded ≠ "map".toList ∧ folded ≠ "struct".toList ∧
            (decide (folded = "decimal".toList) || decide (folded = "numeric".toList)) = false := by
          rcases characters with rfl | rfl <;> decide
        rw [if_neg other.1, if_neg other.2.1, if_neg other.2.2.1, if_neg (by rw [other.2.2.2]; decide), if_pos]
        · exact reads_length.mpr ⟨rfl, length⟩
        · rw [Bool.or_eq_true, decide_eq_true_eq, decide_eq_true_eq]
          exact characters
    | leaf leaf =>
        have other : ∀ name : Text, leafTypes.lookup name = none → folded ≠ name := by
          rintro name none rfl
          rw [none] at leaf
          cases leaf
        have decimal : (decide (folded = "decimal".toList) || decide (folded = "numeric".toList)) = false := by
          rw [decide_eq_false (other _ rfl), decide_eq_false (other _ rfl)]
          rfl
        have characters : (decide (folded = "varchar".toList) || decide (folded = "char".toList)) = false := by
          rw [decide_eq_false (other _ rfl), decide_eq_false (other _ rfl)]
          rfl
        rw [if_neg (other _ rfl), if_neg (other _ rfl), if_neg (other _ rfl), if_neg (by rw [decimal]; decide),
          if_neg (by rw [characters]; decide), leaf]
        exact reads_pure.mpr ⟨rfl, rfl⟩

end GlueTypeParser

end DuckGlue
