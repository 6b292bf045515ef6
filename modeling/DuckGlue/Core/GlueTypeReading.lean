import DuckGlue.Core.GlueTypeSyntax

/-! # Reading the texts of Glue types

The parser takes the text of a readable type off its input and returns the type; where a
name holds spaces it stops at the first of them, and what is left there closes no bracket.
-/

namespace DuckGlue

open StringUtil GlueTypeParser Parsing

namespace GlueTypeParser

variable {input s t u rest : Text} {c : Char} {fuel : ℕ}

/-- What follows a type inside a type, or nothing. -/
def Closes (rest : Text) : Prop := ∀ c ∈ (skip rest).head?, c = '>' ∨ c = ','

/-- What is left can not follow a type. -/
def Stuck (rest : Text) : Prop := ∃ c ∈ (skip rest).head?, c ≠ '>' ∧ c ≠ ','

theorem closes_bracket {spaces : Text} (blank : Spaces spaces) : Closes (spaces ++ '>' :: rest) := by
  intro c first
  rw [skip_spaces blank, skip_cons (by decide)] at first
  cases first
  exact .inl rfl

theorem closes_comma {spaces : Text} (blank : Spaces spaces) : Closes (spaces ++ ',' :: rest) := by
  intro c first
  rw [skip_spaces blank, skip_cons (by decide)] at first
  cases first
  exact .inr rfl

theorem Closes.ends (closes : Closes rest) : ∀ c ∈ rest.head?, endsIdentifier c = true := by
  intro c first
  cases space : isSpace c with
  | true => exact isSpace_endsIdentifier space
  | false =>
      have visible : skip rest = rest := by
        apply dropWhile_of_head
        intro d other
        cases first.symm.trans other
        exact space
      rcases closes c (by rw [visible]; exact first) with rfl | rfl
      · decide
      · decide

theorem Closes.not_open (closes : Closes rest) : (skip rest).head? ≠ some '(' := by
  intro here
  rcases closes '(' here with impossible | impossible
  · exact absurd impossible (by decide)
  · exact absurd impossible (by decide)

theorem Stuck.not_bracket (stuck : Stuck s) : skip s ≠ '>' :: t := by
  obtain ⟨c, first, other, -⟩ := stuck
  intro here
  rw [here] at first
  cases first
  exact other rfl

theorem Stuck.not_comma (stuck : Stuck s) : skip s ≠ ',' :: t := by
  obtain ⟨c, first, -, other⟩ := stuck
  intro here
  rw [here] at first
  cases first
  exact other rfl

/-- The bracket after a name ends it. -/
theorem ends_open {opens : Text} (blank : Spaces opens) (stop : endsIdentifier c = true) :
    ∀ d ∈ (opens ++ c :: rest).head?, endsIdentifier d = true := by
  intro d first
  cases opens with
  | nil =>
      cases first
      exact stop
  | cons space opens =>
      cases first
      exact isSpace_endsIdentifier (blank d List.mem_cons_self)

/-- A keyword of the parser in any letter case. -/
theorem reads_keyword {spaces name keyword : Text} (blank : Spaces spaces) (spelled : lower name = keyword)
    (some : keyword ≠ []) (plain : ∀ c ∈ keyword, endsIdentifier c = false)
    (ends : ∀ c ∈ rest.head?, endsIdentifier c = true) :
    Reads input readIdentifier (spaces ++ (name ++ rest)) name rest := by
  apply reads_name blank _ (name_plain spelled plain) ends
  rintro rfl
  exact some spelled.symm

/-- A field's name and type, and the fields after a comma. -/
theorem reads_parseFields {fields : List (Text × LogicalType)} : Reads input (parseFields (fuel + 1)) s fields t ↔
    ∃ field : FieldSyntax, field.WellFormed ∧ ∃ v type w, s = field.text ++ v ∧ Reads input (parseType fuel) v type w ∧
      ((∃ x others, skip w = ',' :: x ∧ Reads input (parseFields fuel) x others t ∧
          fields = (field.name, type) :: others) ∨
        (skip w).head? ≠ some ',' ∧ skip w = t ∧ fields = [(field.name, type)]) := by
  conv_lhs => unfold parseFields
  simp only [reads_bind, reads_expect]
  constructor
  · rintro ⟨name, u, named, _, v, colon, type, w, typed, found, x, peeked, read⟩
    obtain ⟨field, wf, rfl, rfl⟩ := reads_field.mp ⟨u, named, colon⟩
    refine ⟨field, wf, v, type, w, rfl, typed, ?_⟩
    obtain ⟨rfl, rfl⟩ := reads_peek.mp peeked
    by_cases here : (skip w).head? = some ','
    · obtain ⟨x, shape⟩ := List.head?_eq_some_iff.mp here
      simp only [here, decide_true, if_true, reads_bind, reads_advance, reads_pure] at read
      obtain ⟨_, _, rfl, others, _, more, rfl, rfl⟩ := read
      rw [shape, List.tail_cons] at more
      exact .inl ⟨_, others, shape, more, rfl⟩
    · simp only [here, decide_false, Bool.false_eq_true, if_false, reads_pure] at read
      exact .inr ⟨here, read.2, read.1.symm⟩
  · rintro ⟨field, wf, v, type, w, rfl, typed, others⟩
    obtain ⟨u, named, colon⟩ := reads_field.mpr ⟨field, wf, rfl, rfl⟩
    refine ⟨field.name, u, named, (), v, colon, type, w, typed, ?_⟩
    rcases others with ⟨x, others, comma, more, rfl⟩ | ⟨none, rfl, rfl⟩
    · refine ⟨true, ',' :: x, reads_peek.mpr ⟨by rw [comma]; rfl, comma⟩, ?_⟩
      simp only [if_true, reads_bind, reads_advance, reads_pure]
      exact ⟨(), x, rfl, others, t, more, rfl, rfl⟩
    · refine ⟨false, skip w, reads_peek.mpr ⟨decide_eq_false none, rfl⟩, ?_⟩
      simp only [Bool.false_eq_true, if_false, reads_pure]
      exact ⟨trivial, trivial⟩

theorem mem_leafTypes {name : Text} {type : LogicalType} (known : leafTypes.lookup name = some type) :
    (name, type) ∈ leafTypes := by
  obtain ⟨before, after, here, -⟩ := List.lookup_eq_some_iff.mp known
  rw [here]
  exact List.mem_append_right _ List.mem_cons_self

/-- The names that hold no space. -/
theorem leafTypes_plain {name : Text} {type : LogicalType} (known : leafTypes.lookup name = some type)
    (readable : name ≠ "timestamp with time zone".toList) : name ≠ [] ∧ ∀ c ∈ name, endsIdentifier c = false := by
  have plain : ∀ leaf ∈ leafTypes, leaf.1 ≠ "timestamp with time zone".toList →
      leaf.1 ≠ [] ∧ ∀ c ∈ leaf.1, endsIdentifier c = false := by decide +kernel
  exact plain _ (mem_leafTypes known) readable

/-- The names of what has parts. -/
theorem keyword_plain {name : Text} (named : name ∈ ["array", "map", "struct", "decimal", "numeric", "varchar", "char"].map
    String.toList) : name ≠ [] ∧ ∀ c ∈ name, endsIdentifier c = false := by
  have plain : ∀ keyword ∈ ["array", "map", "struct", "decimal", "numeric", "varchar", "char"].map String.toList,
      keyword ≠ [] ∧ ∀ c ∈ keyword, endsIdentifier c = false := by decide +kernel
  exact plain name named

theorem skip_open {spaces : Text} (blank : Spaces spaces) (visible : isSpace c = false) :
    skip (spaces ++ c :: rest) = c :: rest := (skip_eq_cons visible).mpr ⟨spaces, blank, rfl⟩

end GlueTypeParser

theorem FieldSyntax.length_pos (field : FieldSyntax) : 0 < field.text.length := by
  simp only [FieldSyntax.text, List.length_append, List.length_cons]
  omega

variable {input : Text}

mutual

/-- The text of a readable type is read as the type. -/
theorem TypeSyntax.reads_text (type : TypeSyntax) (wf : type.WellFormed) (readable : type.Readable)
    {rest : Text} (closes : Closes rest) {fuel : ℕ} (enough : type.text.length < fuel) :
    ∃ t, Reads input (parseType fuel) (type.text ++ rest) type.type t ∧ skip t = skip rest := by
  cases fuel with
  | zero => omega
  | succ fuel =>
  simp only [reads_parseType]
  cases type with
  | leaf spaces name =>
      obtain ⟨blank, known⟩ := wf
      obtain ⟨type, known⟩ := Option.isSome_iff_exists.mp known
      obtain ⟨some, plain⟩ := leafTypes_plain known readable
      refine ⟨rest, ⟨name, rest, ?_, ?_⟩, rfl⟩
      · rw [TypeSyntax.text, List.append_assoc]
        exact reads_keyword blank rfl some plain closes.ends
      · rw [TypeSyntax.type, known]
        exact .leaf known
  | decimal spaces name arguments =>
      obtain ⟨blank, spelled, argumentsWf⟩ := wf
      obtain ⟨some, plain⟩ := @keyword_plain (lower name) (by rcases spelled with h | h <;> simp [h])
      cases arguments with
      | none =>
          refine ⟨skip rest, ⟨name, rest, ?_, .decimal spelled ?_⟩, skip_skip rest⟩
          · simp only [TypeSyntax.text, Option.map_none, Option.getD_none, List.append_nil, List.append_assoc]
            exact reads_keyword blank rfl some plain closes.ends
          · exact reads_parseDecimal.mpr (.inr ⟨closes.not_open, rfl, rfl⟩)
      | some given =>
          have givenWf := argumentsWf given rfl
          refine ⟨rest, ⟨name, given.text ++ rest, ?_, .decimal spelled ?_⟩, rfl⟩
          · simp only [TypeSyntax.text, Option.map_some, Option.getD_some, List.append_assoc]
            apply reads_keyword blank rfl some plain
            rw [DecimalSyntax.text, List.append_assoc, List.cons_append]
            exact ends_open givenWf.opens rfl
          · exact reads_parseDecimal.mpr (.inl ⟨given, givenWf, rfl, rfl⟩)
  | characters spaces name length =>
      obtain ⟨blank, spelled, lengthWf⟩ := wf
      obtain ⟨some, plain⟩ := @keyword_plain (lower name) (by rcases spelled with h | h <;> simp [h])
      cases length with
      | none =>
          refine ⟨skip rest, ⟨name, rest, ?_, .characters spelled (.inr ⟨closes.not_open, rfl⟩)⟩, skip_skip rest⟩
          simp only [TypeSyntax.text, Option.map_none, Option.getD_none, List.append_nil, List.append_assoc]
          exact reads_keyword blank rfl some plain closes.ends
      | some given =>
          have givenWf := lengthWf given rfl
          refine ⟨rest, ⟨name, given.text ++ rest, ?_, .characters spelled (.inl ⟨given, givenWf, readable given rfl, rfl⟩)⟩,
            rfl⟩
          simp only [TypeSyntax.text, Option.map_some, Option.getD_some, List.append_assoc]
          apply reads_keyword blank rfl some plain
          rw [LengthSyntax.text, List.append_assoc, List.cons_append]
          exact ends_open givenWf.opens rfl
  | array spaces name opens child closing =>
      obtain ⟨blank, spelled, opensBlank, childWf, closingBlank⟩ := wf
      obtain ⟨some, plain⟩ := @keyword_plain (lower name) (by simp [spelled])
      simp only [TypeSyntax.text, List.length_append, List.length_cons] at enough
      obtain ⟨t, read, left⟩ := child.reads_text childWf readable (@closes_bracket rest _ closingBlank)
        (show child.text.length < fuel by omega)
      refine ⟨rest, ⟨name, opens ++ '<' :: (child.text ++ (closing ++ '>' :: rest)), ?_,
        .array spelled (skip_open opensBlank (by decide)) read ?_⟩, rfl⟩
      · simp only [TypeSyntax.text, List.append_assoc, List.cons_append, List.nil_append]
        exact reads_keyword blank rfl some plain (ends_open opensBlank rfl)
      · rw [left]
        exact skip_open closingBlank (by decide)
  | map spaces name opens key comma value closing =>
      obtain ⟨blank, spelled, opensBlank, keyWf, commaBlank, valueWf, closingBlank⟩ := wf
      obtain ⟨some, plain⟩ := @keyword_plain (lower name) (by simp [spelled])
      simp only [TypeSyntax.text, List.length_append, List.length_cons] at enough
      obtain ⟨t, keyRead, keyLeft⟩ := key.reads_text keyWf readable.1
        (@closes_comma (value.text ++ (closing ++ '>' :: rest)) _ commaBlank) (show key.text.length < fuel by omega)
      obtain ⟨u, valueRead, valueLeft⟩ := value.reads_text valueWf readable.2
        (@closes_bracket rest _ closingBlank) (show value.text.length < fuel by omega)
      refine ⟨rest, ⟨name, opens ++ '<' :: (key.text ++ (comma ++ ',' :: (value.text ++ (closing ++ '>' :: rest)))), ?_,
        .map spelled (skip_open opensBlank (by decide)) keyRead ?_ valueRead ?_⟩, rfl⟩
      · simp only [TypeSyntax.text, List.append_assoc, List.cons_append, List.nil_append]
        exact reads_keyword blank rfl some plain (ends_open opensBlank rfl)
      · rw [keyLeft]
        exact skip_open commaBlank (by decide)
      · rw [valueLeft]
        exact skip_open closingBlank (by decide)
  | struct spaces name opens fields closing =>
      obtain ⟨blank, spelled, opensBlank, fieldsWf, closingBlank⟩ := wf
      obtain ⟨some, plain⟩ := @keyword_plain (lower name) (by simp [spelled])
      simp only [TypeSyntax.text, List.length_append, List.length_cons] at enough
      have bracket : skip (closing ++ '>' :: rest) = '>' :: rest := skip_open closingBlank (by decide)
      have last : ∀ c ∈ (skip (closing ++ '>' :: rest)).head?, c = '>' := by
        intro c first
        rw [bracket] at first
        cases first
        rfl
      obtain ⟨t, read, left⟩ := fields.reads_text fieldsWf readable last (show fields.text.length < fuel by omega)
      refine ⟨rest, ⟨name, opens ++ '<' :: (fields.text ++ (closing ++ '>' :: rest)), ?_,
        .struct spelled (skip_open opensBlank (by decide)) read ?_⟩, rfl⟩
      · simp only [TypeSyntax.text, List.append_assoc, List.cons_append, List.nil_append]
        exact reads_keyword blank rfl some plain (ends_open opensBlank rfl)
      · rw [left, bracket]
termination_by sizeOf type

theorem FieldsSyntax.reads_text (fields : FieldsSyntax) (wf : fields.WellFormed) (readable : fields.Readable)
    {rest : Text} (closes : ∀ c ∈ (skip rest).head?, c = '>') {fuel : ℕ} (enough : fields.text.length < fuel) :
    ∃ t, Reads input (parseFields fuel) (fields.text ++ rest) fields.types t ∧ skip t = skip rest := by
  cases fuel with
  | zero => omega
  | succ fuel =>
  simp only [reads_parseFields]
  have none : (skip rest).head? ≠ some ',' := by
    intro here
    exact absurd (closes ',' here) (by decide)
  cases fields with
  | last field type =>
      obtain ⟨fieldWf, typeWf⟩ := wf
      have filled := field.length_pos
      simp only [FieldsSyntax.text, List.length_append] at enough
      have closed : Closes rest := fun c first => .inl (closes c first)
      obtain ⟨t, read, left⟩ := type.reads_text typeWf readable closed (show type.text.length < fuel by omega)
      refine ⟨skip t, ⟨field, fieldWf, type.text ++ rest, type.type, t, ?_, read, .inr ⟨left ▸ none, rfl, rfl⟩⟩, ?_⟩
      · rw [FieldsSyntax.text, List.append_assoc]
      · rw [skip_skip, left]
  | cons field type comma others =>
      obtain ⟨fieldWf, typeWf, commaBlank, othersWf⟩ := wf
      have filled := field.length_pos
      simp only [FieldsSyntax.text, List.length_append, List.length_cons] at enough
      obtain ⟨t, read, left⟩ := type.reads_text typeWf readable.1
        (@closes_comma (others.text ++ rest) _ commaBlank) (show type.text.length < fuel by omega)
      obtain ⟨u, othersRead, othersLeft⟩ := others.reads_text othersWf readable.2 closes
        (show others.text.length < fuel by omega)
      refine ⟨u, ⟨field, fieldWf, type.text ++ (comma ++ ',' :: (others.text ++ rest)), type.type, t, ?_, read,
        .inl ⟨_, _, ?_, othersRead, rfl⟩⟩, othersLeft⟩
      · simp only [FieldsSyntax.text, List.append_assoc, List.cons_append]
      · rw [left]
        exact skip_open commaBlank (by decide)
termination_by sizeOf fields

end

namespace GlueTypeParser

variable {s t u v w rest name : Text} {fuel : ℕ} {type : LogicalType}

theorem NamedType.of_array (named : NamedType input fuel name u type t) (here : name = "array".toList) :
    ∃ child v w, type = .list child ∧ skip u = '<' :: v ∧ Reads input (parseType fuel) v child w ∧ skip w = '>' :: t := by
  subst here
  cases named with
  | array _ opens read closes => exact ⟨_, _, _, rfl, opens, read, closes⟩
  | map other => exact absurd other (by decide)
  | struct other => exact absurd other (by decide)
  | decimal other => exact absurd other (by decide)
  | characters other => exact absurd other (by decide)
  | leaf other => cases other

theorem NamedType.of_map (named : NamedType input fuel name u type t) (here : name = "map".toList) :
    ∃ key value v w x y, type = .map key value ∧ skip u = '<' :: v ∧ Reads input (parseType fuel) v key w ∧
      skip w = ',' :: x ∧ Reads input (parseType fuel) x value y ∧ skip y = '>' :: t := by
  subst here
  cases named with
  | map _ opens keyRead comma valueRead closes => exact ⟨_, _, _, _, _, _, rfl, opens, keyRead, comma, valueRead, closes⟩
  | array other => exact absurd other (by decide)
  | struct other => exact absurd other (by decide)
  | decimal other => exact absurd other (by decide)
  | characters other => exact absurd other (by decide)
  | leaf other => cases other

theorem NamedType.of_struct (named : NamedType input fuel name u type t) (here : name = "struct".toList) :
    ∃ fields v w, type = .struct fields ∧ skip u = '<' :: v ∧ Reads input (parseFields fuel) v fields w ∧
      skip w = '>' :: t := by
  subst here
  cases named with
  | struct _ opens read closes => exact ⟨_, _, _, rfl, opens, read, closes⟩
  | array other => exact absurd other (by decide)
  | map other => exact absurd other (by decide)
  | decimal other => exact absurd other (by decide)
  | characters other => exact absurd other (by decide)
  | leaf other => cases other

theorem NamedType.of_characters (named : NamedType input fuel name u type t)
    (here : name = "varchar".toList ∨ name = "char".toList) : type = .varchar ∧
    ((∃ length : LengthSyntax, length.WellFormed ∧ length.number.Fits ∧ u = length.text ++ t) ∨
      (skip u).head? ≠ some '(') := by
  cases named with
  | characters _ length =>
      rcases length with given | ⟨none, -⟩
      · exact ⟨rfl, .inl given⟩
      · exact ⟨rfl, .inr none⟩
  | array other => rcases here with rfl | rfl <;> exact absurd other (by decide)
  | map other => rcases here with rfl | rfl <;> exact absurd other (by decide)
  | struct other => rcases here with rfl | rfl <;> exact absurd other (by decide)
  | decimal other => rcases here with rfl | rfl <;> exact absurd other (by decide)
  | leaf other => rcases here with rfl | rfl <;> cases other

theorem NamedType.of_decimal (named : NamedType input fuel name u type t)
    (here : name = "decimal".toList ∨ name = "numeric".toList) : Reads input parseDecimal u type t := by
  cases named with
  | decimal _ read => exact read
  | array other => rcases here with rfl | rfl <;> exact absurd other (by decide)
  | map other => rcases here with rfl | rfl <;> exact absurd other (by decide)
  | struct other => rcases here with rfl | rfl <;> exact absurd other (by decide)
  | characters other => rcases here with rfl | rfl <;> exact absurd other (by decide)
  | leaf other => rcases here with rfl | rfl <;> cases other

theorem NamedType.of_leaf {leaf : LogicalType} (named : NamedType input fuel name u type t)
    (here : leafTypes.lookup name = some leaf) : type = leaf ∧ t = u := by
  cases named with
  | leaf known =>
      rw [known] at here
      cases here
      exact ⟨rfl, rfl⟩
  | array other => subst other; cases here
  | map other => subst other; cases here
  | struct other => subst other; cases here
  | decimal other => rcases other with rfl | rfl <;> cases here
  | characters other => rcases other with rfl | rfl <;> cases here

/-- A field is read one way. -/
theorem field_unique {field other : FieldSyntax} (wf : field.WellFormed) (otherWf : other.WellFormed)
    (same : field.text ++ v = other.text ++ w) : v = w := by
  obtain ⟨_, read, colon⟩ := (@reads_field [] _ v _).mpr ⟨field, wf, rfl, rfl⟩
  obtain ⟨_, otherRead, otherColon⟩ := (@reads_field [] _ w _).mpr ⟨other, otherWf, rfl, same⟩
  obtain ⟨-, rfl⟩ := read.unique otherRead
  rw [colon] at otherColon
  cases otherColon
  rfl

/-- The digits between the brackets are read one way. -/
theorem length_unique {length other : LengthSyntax} (wf : length.WellFormed) (otherWf : other.WellFormed)
    (same : length.text ++ s = other.text ++ t) : length.number.digits = other.number.digits := by
  have digits : ∀ {length : LengthSyntax}, length.WellFormed → ∀ s,
      (skip (skip (length.text ++ s)).tail).takeWhile Char.isDigit = length.number.digits := by
    intro length wf s
    have shape : skip (length.text ++ s) = '(' :: (length.number.text ++ (length.closes ++ ')' :: s)) := by
      simp only [LengthSyntax.text, List.append_assoc, List.cons_append, List.nil_append]
      exact skip_open wf.opens (by decide)
    rw [shape, List.tail_cons, skip_number wf.number]
    exact (takeWhile_span wf.number.digits (isDigit_of_spaces wf.closes (by decide))).1
  rw [← digits wf s, same, digits otherWf t]

/-- A name with spaces is left at its first one. -/
theorem stuck_of_spaced {spaces : Text} (blank : Spaces spaces) (spelled : lower name = "timestamp with time zone".toList)
    (read : Reads input (parseType (fuel + 1)) (spaces ++ (name ++ rest)) type t) : Stuck t := by
  obtain ⟨first, others, rfl, firstSpelled, othersSpelled⟩ :=
    List.map_eq_append_iff.mp (show name.map Char.toLower = "timestamp".toList ++ ' ' :: 'w' :: "ith time zone".toList from spelled)
  obtain ⟨space, word, rfl, spaceFolded, wordSpelled⟩ := List.map_eq_cons_iff.mp othersSpelled
  obtain ⟨letter, word, rfl, letterFolded, -⟩ := List.map_eq_cons_iff.mp wordSpelled
  have spaceStops : isSpace space = true := by
    rcases toLower_cases space with same | ⟨low, -, folded⟩
    · rw [← same, spaceFolded]
      decide
    · rw [spaceFolded] at folded
      exact absurd folded (by rw [show ' '.toNat = 32 from rfl]; omega)
  have letterPlain : endsIdentifier letter = false := by
    rw [← endsIdentifier_toLower, letterFolded]
    decide
  have letterVisible : isSpace letter = false := by
    cases space : isSpace letter with
    | false => rfl
    | true =>
        rw [isSpace_endsIdentifier space] at letterPlain
        cases letterPlain
  have expected : Reads input readIdentifier (spaces ++ (first ++ (space :: letter :: word ++ rest))) first
      (space :: letter :: word ++ rest) := by
    apply reads_keyword blank firstSpelled (by decide) (by decide)
    intro c head
    cases head
    exact isSpace_endsIdentifier spaceStops
  obtain ⟨_, u, named, typed⟩ := reads_parseType.mp read
  rw [List.append_assoc] at named
  obtain ⟨rfl, rfl⟩ := expected.unique named
  have known : leafTypes.lookup (lower first) = some .timestamp := by
    rw [show lower first = "timestamp".toList from firstSpelled]
    rfl
  obtain ⟨-, rfl⟩ := typed.of_leaf known
  refine ⟨letter, ?_, ?_, ?_⟩
  · rw [List.cons_append, skip, List.dropWhile_cons_of_pos spaceStops]
    rw [List.cons_append, List.dropWhile_cons_of_neg (by rw [letterVisible]; decide)]
    rfl
  · rintro rfl
    cases letterPlain
  · rintro rfl
    cases letterPlain

end GlueTypeParser

mutual

/-- Where a name is not readable nothing is read up to what follows the type. -/
theorem TypeSyntax.stuck (type : TypeSyntax) (wf : type.WellFormed) (unreadable : ¬type.Readable) {rest : Text}
    {fuel : ℕ} (enough : type.text.length < fuel) {result : LogicalType} {t : Text}
    (read : Reads input (parseType fuel) (type.text ++ rest) result t) : Stuck t := by
  cases fuel with
  | zero => omega
  | succ fuel =>
  cases type with
  | leaf spaces name =>
      have spelled : lower name = "timestamp with time zone".toList := not_not.mp unreadable
      rw [TypeSyntax.text, List.append_assoc] at read
      exact stuck_of_spaced wf.1 spelled read
  | decimal => exact absurd trivial unreadable
  | characters spaces name length =>
      obtain ⟨blank, spelled, lengthWf⟩ := wf
      obtain ⟨some, plain⟩ := @keyword_plain (lower name) (by rcases spelled with h | h <;> simp [h])
      cases length with
      | none => exact absurd (fun given here => by cases here) unreadable
      | some given =>
          have givenWf := lengthWf given rfl
          have huge : ¬given.number.Fits := by
            intro fits
            apply unreadable
            intro other here
            cases here
            exact fits
          obtain ⟨_, u, named, typed⟩ := reads_parseType.mp read
          have expected : Reads input readIdentifier (spaces ++ (name ++ (given.text ++ rest))) name (given.text ++ rest) := by
            apply reads_keyword blank rfl some plain
            rw [LengthSyntax.text, List.append_assoc, List.cons_append]
            exact ends_open givenWf.opens rfl
          simp only [TypeSyntax.text, Option.map_some, Option.getD_some, List.append_assoc] at named
          obtain ⟨rfl, rfl⟩ := expected.unique named
          rcases (typed.of_characters spelled).2 with ⟨other, otherWf, fits, same⟩ | none
          · have digits := length_unique givenWf otherWf same
            unfold NumberSyntax.Fits NumberSyntax.value at fits huge
            rw [digits] at huge
            exact absurd fits huge
          · apply absurd _ none
            simp only [LengthSyntax.text, List.append_assoc, List.cons_append]
            rw [skip_open givenWf.opens (by decide)]
            rfl
  | array spaces name opens child closing =>
      obtain ⟨blank, spelled, opensBlank, childWf, closingBlank⟩ := wf
      obtain ⟨some, plain⟩ := @keyword_plain (lower name) (by simp [spelled])
      obtain ⟨_, u, named, typed⟩ := reads_parseType.mp read
      simp only [TypeSyntax.text, List.append_assoc, List.cons_append, List.nil_append] at named
      obtain ⟨rfl, rfl⟩ := (reads_keyword blank rfl some plain (ends_open opensBlank rfl)).unique named
      obtain ⟨_, v, w, -, opened, childRead, closed⟩ := typed.of_array spelled
      rw [skip_open opensBlank (by decide)] at opened
      cases opened
      simp only [TypeSyntax.text, List.length_append, List.length_cons] at enough
      have stuck := child.stuck childWf unreadable (by omega) childRead
      exact absurd closed stuck.not_bracket
  | map spaces name opens key comma value closing =>
      obtain ⟨blank, spelled, opensBlank, keyWf, commaBlank, valueWf, closingBlank⟩ := wf
      obtain ⟨some, plain⟩ := @keyword_plain (lower name) (by simp [spelled])
      obtain ⟨_, u, named, typed⟩ := reads_parseType.mp read
      simp only [TypeSyntax.text, List.append_assoc, List.cons_append, List.nil_append] at named
      obtain ⟨rfl, rfl⟩ := (reads_keyword blank rfl some plain (ends_open opensBlank rfl)).unique named
      obtain ⟨_, _, v, w, x, y, -, opened, keyRead, between, valueRead, closed⟩ := typed.of_map spelled
      rw [skip_open opensBlank (by decide)] at opened
      cases opened
      simp only [TypeSyntax.text, List.length_append, List.length_cons] at enough
      by_cases keyReadable : key.Readable
      · obtain ⟨z, expected, left⟩ := @TypeSyntax.reads_text input key keyWf keyReadable _
          (@closes_comma (value.text ++ (closing ++ '>' :: rest)) _ commaBlank) fuel (by omega)
        obtain ⟨-, rfl⟩ := expected.unique keyRead
        rw [left, skip_open commaBlank (by decide)] at between
        cases between
        have valueUnreadable : ¬value.Readable := fun readable => unreadable ⟨keyReadable, readable⟩
        have stuck := value.stuck valueWf valueUnreadable (by omega) valueRead
        exact absurd closed stuck.not_bracket
      · have stuck := key.stuck keyWf keyReadable (by omega) keyRead
        exact absurd between stuck.not_comma
  | struct spaces name opens fields closing =>
      obtain ⟨blank, spelled, opensBlank, fieldsWf, closingBlank⟩ := wf
      obtain ⟨some, plain⟩ := @keyword_plain (lower name) (by simp [spelled])
      obtain ⟨_, u, named, typed⟩ := reads_parseType.mp read
      simp only [TypeSyntax.text, List.append_assoc, List.cons_append, List.nil_append] at named
      obtain ⟨rfl, rfl⟩ := (reads_keyword blank rfl some plain (ends_open opensBlank rfl)).unique named
      obtain ⟨_, v, w, -, opened, fieldsRead, closed⟩ := typed.of_struct spelled
      rw [skip_open opensBlank (by decide)] at opened
      cases opened
      simp only [TypeSyntax.text, List.length_append, List.length_cons] at enough
      have stuck := fields.stuck fieldsWf unreadable (by omega) fieldsRead
      exact absurd closed stuck.not_bracket
termination_by sizeOf type

theorem FieldsSyntax.stuck (fields : FieldsSyntax) (wf : fields.WellFormed) (unreadable : ¬fields.Readable)
    {rest : Text} {fuel : ℕ} (enough : fields.text.length < fuel)
    {result : List (Text × LogicalType)} {t : Text}
    (read : Reads input (parseFields fuel) (fields.text ++ rest) result t) : Stuck t := by
  cases fuel with
  | zero => omega
  | succ fuel =>
  obtain ⟨other, otherWf, v, _, w, same, typeRead, others⟩ := reads_parseFields.mp read
  cases fields with
  | last field type =>
      obtain ⟨fieldWf, typeWf⟩ := wf
      have filled := field.length_pos
      simp only [FieldsSyntax.text, List.length_append] at enough
      rw [FieldsSyntax.text, List.append_assoc] at same
      have here := field_unique fieldWf otherWf same
      subst here
      have stuck := type.stuck typeWf unreadable (by omega) typeRead
      rcases others with ⟨x, _, between, -⟩ | ⟨-, rfl, -⟩
      · exact absurd between stuck.not_comma
      · unfold Stuck
        rw [skip_skip]
        exact stuck
  | cons field type comma more =>
      obtain ⟨fieldWf, typeWf, commaBlank, moreWf⟩ := wf
      have filled := field.length_pos
      simp only [FieldsSyntax.text, List.length_append, List.length_cons] at enough
      simp only [FieldsSyntax.text, List.append_assoc, List.cons_append] at same
      have here := field_unique fieldWf otherWf same
      subst here
      by_cases typeReadable : type.Readable
      · obtain ⟨z, expected, left⟩ := @TypeSyntax.reads_text input type typeWf typeReadable _
          (@closes_comma (more.text ++ rest) _ commaBlank) fuel (by omega)
        obtain ⟨-, rfl⟩ := expected.unique typeRead
        rw [left, skip_open commaBlank (by decide)] at others
        rcases others with ⟨x, _, between, moreRead, -⟩ | ⟨none, -⟩
        · cases between
          have moreUnreadable : ¬more.Readable := fun readable => unreadable ⟨typeReadable, readable⟩
          exact more.stuck moreWf moreUnreadable (by omega) moreRead
        · exact absurd rfl none
      · have stuck := type.stuck typeWf typeReadable (by omega) typeRead
        rcases others with ⟨x, _, between, -⟩ | ⟨-, rfl, -⟩
        · exact absurd between stuck.not_comma
        · unfold Stuck
          rw [skip_skip]
          exact stuck
termination_by sizeOf fields

end

/-- The text of the type, with white space after it, is what is read up to `t`. -/
structure TypeSyntax.Spells (type : TypeSyntax) (s : Text) (read : LogicalType) (t : Text) : Prop where
  wf : type.WellFormed
  readable : type.Readable
  same : type.type = read
  text : ∃ spaces, Spaces spaces ∧ s = type.text ++ (spaces ++ t)

structure FieldsSyntax.Spells (fields : FieldsSyntax) (s : Text) (read : List (Text × LogicalType)) (t : Text) : Prop where
  wf : fields.WellFormed
  readable : fields.Readable
  same : fields.types = read
  text : ∃ spaces, Spaces spaces ∧ s = fields.text ++ (spaces ++ t)

/-- The token after what is spelled. -/
theorem GlueTypeParser.exists_token {spaces w t : Text} {c : Char} (blank : Spaces spaces) (visible : isSpace c = false)
    (next : skip w = c :: t) : ∃ before, Spaces before ∧ spaces ++ w = before ++ c :: t := by
  apply (skip_eq_cons visible).mp
  rw [skip_spaces blank]
  exact next

/-- Nothing is read but texts of types. -/
theorem GlueTypeParser.exists_spelled (fuel : ℕ) :
    (∀ s type t, Reads input (parseType fuel) s type t → ∃ spelled : TypeSyntax, spelled.Spells s type t) ∧
      ∀ s fields t, Reads input (parseFields fuel) s fields t → ∃ spelled : FieldsSyntax, spelled.Spells s fields t := by
  induction fuel with
  | zero =>
      constructor
      · intro s type t read
        exact absurd read reads_throw
      · intro s fields t read
        exact absurd read reads_throw
  | succ fuel ih =>
      obtain ⟨types, fields⟩ := ih
      have visible : isSpace '<' = false ∧ isSpace '>' = false ∧ isSpace ',' = false := by decide
      constructor
      · intro s type t read
        obtain ⟨name, u, named, typed⟩ := reads_parseType.mp read
        obtain ⟨-, plain, -, here⟩ := reads_readIdentifier.mp named
        obtain ⟨spaces, blank, split⟩ := exists_spaces s
        rw [here] at split
        cases typed with
        | array spelled opened childRead closed =>
            obtain ⟨child, wf, readable, rfl, childSpaces, childBlank, rfl⟩ := types _ _ _ childRead
            obtain ⟨opens, opensBlank, rfl⟩ := (skip_eq_cons visible.1).mp opened
            obtain ⟨closing, closingBlank, last⟩ := exists_token childBlank visible.2.1 closed
            refine ⟨.array spaces name opens child closing, ⟨blank, spelled, opensBlank, wf, closingBlank⟩, readable, rfl,
              [], by simp [Spaces], ?_⟩
            rw [split, last]
            simp only [TypeSyntax.text, List.append_assoc, List.cons_append, List.nil_append]
        | map spelled opened keyRead between valueRead closed =>
            obtain ⟨key, keyWf, keyReadable, rfl, keySpaces, keyBlank, rfl⟩ := types _ _ _ keyRead
            obtain ⟨value, valueWf, valueReadable, rfl, valueSpaces, valueBlank, rfl⟩ := types _ _ _ valueRead
            obtain ⟨opens, opensBlank, rfl⟩ := (skip_eq_cons visible.1).mp opened
            obtain ⟨comma, commaBlank, next⟩ := exists_token keyBlank visible.2.2 between
            obtain ⟨closing, closingBlank, last⟩ := exists_token valueBlank visible.2.1 closed
            refine ⟨.map spaces name opens key comma value closing,
              ⟨blank, spelled, opensBlank, keyWf, commaBlank, valueWf, closingBlank⟩, ⟨keyReadable, valueReadable⟩, rfl,
              [], by simp [Spaces], ?_⟩
            rw [split, next, last]
            simp only [TypeSyntax.text, List.append_assoc, List.cons_append, List.nil_append]
        | struct spelled opened fieldsRead closed =>
            obtain ⟨children, wf, readable, rfl, childSpaces, childBlank, rfl⟩ := fields _ _ _ fieldsRead
            obtain ⟨opens, opensBlank, rfl⟩ := (skip_eq_cons visible.1).mp opened
            obtain ⟨closing, closingBlank, last⟩ := exists_token childBlank visible.2.1 closed
            refine ⟨.struct spaces name opens children closing, ⟨blank, spelled, opensBlank, wf, closingBlank⟩, readable,
              rfl, [], by simp [Spaces], ?_⟩
            rw [split, last]
            simp only [TypeSyntax.text, List.append_assoc, List.cons_append, List.nil_append]
        | decimal spelled read =>
            rcases reads_parseDecimal.mp read with ⟨given, wf, rfl, rfl⟩ | ⟨-, rfl, rfl⟩
            · refine ⟨.decimal spaces name (some given), ⟨blank, spelled, ?_⟩, trivial, rfl, [], by simp [Spaces], ?_⟩
              · intro other same
                cases same
                exact wf
              · rw [split]
                simp only [TypeSyntax.text, Option.map_some, Option.getD_some, List.append_assoc, List.nil_append]
            · obtain ⟨after, afterBlank, rest⟩ := exists_spaces u
              refine ⟨.decimal spaces name none, ⟨blank, spelled, by simp⟩, trivial, rfl, after, afterBlank, ?_⟩
              rw [split, ← rest]
              simp only [TypeSyntax.text, Option.map_none, Option.getD_none, List.append_nil, List.append_assoc]
        | characters spelled length =>
            rcases length with ⟨given, wf, fits, rfl⟩ | ⟨-, rfl⟩
            · refine ⟨.characters spaces name (some given), ⟨blank, spelled, ?_⟩, ?_, rfl, [], by simp [Spaces], ?_⟩
              · intro other same
                cases same
                exact wf
              · intro other same
                cases same
                exact fits
              · rw [split]
                simp only [TypeSyntax.text, Option.map_some, Option.getD_some, List.append_assoc, List.nil_append]
            · obtain ⟨after, afterBlank, rest⟩ := exists_spaces u
              refine ⟨.characters spaces name none, ⟨blank, spelled, by simp⟩, by simp [TypeSyntax.Readable], rfl, after,
                afterBlank, ?_⟩
              rw [split, ← rest]
              simp only [TypeSyntax.text, Option.map_none, Option.getD_none, List.append_nil, List.append_assoc]
        | leaf known =>
            refine ⟨.leaf spaces name, ⟨blank, by rw [known]; rfl⟩, ?_, by rw [TypeSyntax.type, known]; rfl, [],
              by simp [Spaces], ?_⟩
            · -- no space is read into a name
              intro spaced
              have inside : ∃ c ∈ "timestamp with time zone".toList, endsIdentifier c = true := ⟨' ', by decide, by decide⟩
              obtain ⟨c, member, stops⟩ := inside
              rw [← spaced] at member
              obtain ⟨d, original, rfl⟩ := List.mem_map.mp member
              rw [endsIdentifier_toLower, plain d original] at stops
              cases stops
            · rw [split, TypeSyntax.text]
              simp only [List.append_assoc, List.nil_append]
      · intro s read t fieldsRead
        obtain ⟨field, fieldWf, v, _, w, rfl, typeRead, others⟩ := reads_parseFields.mp fieldsRead
        obtain ⟨type, typeWf, typeReadable, rfl, typeSpaces, typeBlank, rfl⟩ := types _ _ _ typeRead
        rcases others with ⟨x, _, between, othersRead, rfl⟩ | ⟨-, rfl, rfl⟩
        · obtain ⟨more, moreWf, moreReadable, rfl, moreSpaces, moreBlank, rfl⟩ := fields _ _ _ othersRead
          obtain ⟨comma, commaBlank, next⟩ := exists_token typeBlank visible.2.2 between
          refine ⟨.cons field type comma more, ⟨fieldWf, typeWf, commaBlank, moreWf⟩, ⟨typeReadable, moreReadable⟩, rfl,
            moreSpaces, moreBlank, ?_⟩
          rw [next]
          simp only [FieldsSyntax.text, List.append_assoc, List.cons_append]
        · obtain ⟨after, afterBlank, rest⟩ := exists_spaces w
          refine ⟨.last field type, ⟨fieldWf, typeWf⟩, typeReadable, rfl, typeSpaces ++ after,
            spaces_append typeBlank afterBlank, ?_⟩
          rw [List.append_assoc, ← rest]
          simp only [FieldsSyntax.text, List.append_assoc]

namespace GlueTypes

/-- A type is read up to white space. -/
theorem toLogicalType_ok {text : Text} {type : LogicalType} : toLogicalType text = .ok type ↔
    ∃ t, Reads text (parseType (2 * text.length + 2)) text type t ∧ skip t = [] := by
  have run : toLogicalType text = .ok type ↔ ∃ t, Reads text (parse (2 * text.length + 2)) text type t := by
    unfold toLogicalType Reads
    simp only [Fallible.bind_eq_ok, Fallible.pure_eq_ok]
    constructor
    · rintro ⟨⟨result, t⟩, read, rfl⟩
      exact ⟨t, read⟩
    · rintro ⟨t, read⟩
      exact ⟨(type, t), read, rfl⟩
  rw [run]
  unfold parse
  simp only [reads_bind, reads_skipWhitespace, reads_get]
  constructor
  · rintro ⟨_, result, t, read, _, _, rfl, _, _, ⟨rfl, rfl⟩, rest⟩
    rw [reads_guard fun _ _ => reads_refusal] at rest
    obtain ⟨none, rest⟩ := rest
    obtain ⟨rfl, -⟩ := reads_pure.mp rest
    exact ⟨t, read, not_not.mp none⟩
  · rintro ⟨t, read, none⟩
    refine ⟨[], type, t, read, (), _, rfl, _, _, ⟨rfl, rfl⟩, ?_⟩
    rw [reads_guard fun _ _ => reads_refusal]
    exact ⟨not_not.mpr none, reads_pure.mpr ⟨rfl, none⟩⟩

theorem toLogicalType_of_readable {type : TypeSyntax} {trailing : Text} (wf : type.WellFormed)
    (readable : type.Readable) (blank : Spaces trailing) : toLogicalType (type.text ++ trailing) = .ok type.type := by
  have nothing : skip trailing = [] := by
    rw [← List.append_nil trailing, skip_spaces blank]
    rfl
  have closes : Closes trailing := by
    intro c first
    rw [nothing] at first
    cases first
  have enough : type.text.length < 2 * (type.text ++ trailing).length + 2 := by
    rw [List.length_append]
    omega
  obtain ⟨t, read, left⟩ := type.reads_text wf readable closes enough
  exact toLogicalType_ok.mpr ⟨t, read, left.trans nothing⟩

/-- A text of a type is read as the type just when it is readable, and nothing else is
read. -/
theorem toLogicalType_spelled_iff (type : TypeSyntax) (trailing : Text) (wf : type.WellFormed)
    (blank : Spaces trailing) :
    (toLogicalType (type.text ++ trailing) = .ok type.type ↔ type.Readable) ∧
      ∀ (text : Text) (result : LogicalType), toLogicalType text = .ok result →
        ∃ (type : TypeSyntax) (trailing : Text), type.WellFormed ∧ Spaces trailing ∧ text = type.text ++ trailing ∧
          type.type = result := by
  constructor
  · constructor
    · intro accepted
      obtain ⟨t, read, none⟩ := toLogicalType_ok.mp accepted
      by_contra unreadable
      have enough : type.text.length < 2 * (type.text ++ trailing).length + 2 := by
        rw [List.length_append]
        omega
      obtain ⟨c, first, -⟩ := type.stuck wf unreadable enough read
      rw [none] at first
      cases first
    · intro readable
      exact toLogicalType_of_readable wf readable blank
  · intro text result accepted
    obtain ⟨t, read, none⟩ := toLogicalType_ok.mp accepted
    obtain ⟨type, wf, -, same, spaces, blank, here⟩ := (exists_spelled _).1 _ _ _ read
    obtain ⟨trailing, trailingBlank, rest⟩ := exists_spaces t
    rw [none, List.append_nil] at rest
    rw [rest] at here
    exact ⟨type, spaces ++ trailing, wf, spaces_append blank trailingBlank, here, same⟩

/-- ` Array < VARCHAR( 5) >` -/
def spacedArray : TypeSyntax :=
  .array " ".toList "Array".toList " ".toList
    (.characters " ".toList "VARCHAR".toList (some ⟨[], ⟨" ".toList, "5".toList⟩, []⟩)) " ".toList

theorem toLogicalType_spacedArray : toLogicalType " Array < VARCHAR( 5) > ".toList = .ok (.list .varchar) := by
  have blank : Spaces " ".toList := by unfold Spaces; decide
  have none : Spaces [] := by unfold Spaces; decide
  have wf : spacedArray.WellFormed := by
    refine ⟨blank, by decide, blank, ⟨blank, by decide, ?_⟩, blank⟩
    intro given here
    cases here
    exact ⟨none, ⟨blank, by decide, by decide⟩, none⟩
  have readable : spacedArray.Readable := by
    intro given here
    cases here
    decide
  exact (toLogicalType_spelled_iff spacedArray " ".toList wf blank).1.mpr readable

/-- `ParseType` compares with this name, `ReadIdentifier` reads its first word. -/
theorem toLogicalType_misses_timeZone : (TypeSyntax.leaf [] "timestamp with time zone".toList).WellFormed ∧
    toLogicalType (TypeSyntax.leaf [] "timestamp with time zone".toList).text ≠
      .ok (TypeSyntax.leaf [] "timestamp with time zone".toList).type := by
  constructor
  · exact ⟨by simp [Spaces], by decide +kernel⟩
  · have refused : toLogicalType "timestamp with time zone".toList =
        .error (.invalidInput "Unexpected trailing characters in Glue type 'timestamp with time zone' at position 10".toList) := by
      rfl
    intro same
    exact absurd (refused.symm.trans same) (by intro impossible; cases impossible)

end GlueTypes

end DuckGlue
