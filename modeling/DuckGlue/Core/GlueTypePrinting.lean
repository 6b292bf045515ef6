import DuckGlue.Core.GlueTypeReading

/-! # Types that Glue keeps

A type is printed as a text of the type that is read back: its canonical form.
-/

namespace DuckGlue

open StringUtil GlueTypeParser

/-- A struct's field name that stands for itself in a type text. -/
structure PlainName (name : Text) : Prop where
  some : name ≠ []
  plain : ∀ c ∈ name, c ∉ [':', ',', '<', '>', '\x60']
  opens : ∀ c ∈ name.head?, isSpace c = false
  closes : ∀ c ∈ name.getLast?, isSpace c = false

instance (name : Text) : Decidable (PlainName name) :=
  decidable_of_iff (name ≠ [] ∧ (∀ c ∈ name, c ∉ [':', ',', '<', '>', '\x60']) ∧
      (∀ c ∈ name.head?, isSpace c = false) ∧ ∀ c ∈ name.getLast?, isSpace c = false)
    ⟨fun ⟨named, plain, opens, closes⟩ => ⟨named, plain, opens, closes⟩,
      fun ⟨named, plain, opens, closes⟩ => ⟨named, plain, opens, closes⟩⟩

namespace LogicalType

mutual

/-- The decimals are ones DuckDB builds. -/
def Valid : LogicalType → Prop
  | .decimal width scale => 1 ≤ width ∧ width ≤ maxWidthDecimal ∧ scale ≤ width
  | .list child => Valid child
  | .map key value => Valid key ∧ Valid value
  | .struct fields => ValidFields fields
  | _ => True

def ValidFields : List (Text × LogicalType) → Prop
  | [] => True
  | (_, type) :: fields => Valid type ∧ ValidFields fields

end

mutual

/-- What Glue can keep of a type: an unsigned integer is widened to the next signed one. -/
def canonical : LogicalType → Option LogicalType
  | .utinyint => some .smallint
  | .usmallint => some .integer
  | .uinteger => some .bigint
  | .list child => (canonical child).map .list
  | .map key value => do
      let key ← canonical key
      let value ← canonical value
      return .map key value
  | .struct [] => none
  | .struct (field :: fields) => (canonicalFields (field :: fields)).map .struct
  | .unsupported _ => none
  | type => some type

def canonicalFields : List (Text × LogicalType) → Option (List (Text × LogicalType))
  | [] => some []
  | (name, type) :: fields => do
      guard (PlainName name)
      let type ← canonical type
      let fields ← canonicalFields fields
      return (name, type) :: fields

end

theorem canonical_struct {fields : List (Text × LogicalType)} (some : fields ≠ []) :
    canonical (.struct fields) = (canonicalFields fields).map .struct := by
  cases fields with
  | nil => exact absurd rfl some
  | cons field fields => rw [canonical]

end LogicalType

/-- A type as DuckDB holds it: an alias may name it, a string may have a collation. -/
inductive DuckType where
  | plain (type : LogicalType)
  | aliased (name : Text) (type : DuckType)
  | collated (collation : Text)
  | list (child : DuckType)
  | map (key value : DuckType)
  | struct (children : List (Text × DuckType))

namespace DuckType

mutual

/-- The ids and children of the type. -/
def logicalType : DuckType → LogicalType
  | .plain type => type
  | .aliased _ type => logicalType type
  | .collated _ => .varchar
  | .list child => .list (logicalType child)
  | .map key value => .map (logicalType key) (logicalType value)
  | .struct children => .struct (logicalTypes children)

def logicalTypes : List (Text × DuckType) → List (Text × LogicalType)
  | [] => []
  | (name, type) :: children => (name, logicalType type) :: logicalTypes children

end

end DuckType

/-- An unquoted field name is read up to its colon. -/
theorem PlainName.field {name : Text} (plain : PlainName name) : PlainField name := by
  refine ⟨plain.some, ?_, ?_, plain.closes⟩
  · intro c member
    cases ends : endsFieldName c with
    | false => rfl
    | true =>
        simp only [endsFieldName, Bool.or_eq_true, decide_eq_true_eq] at ends
        apply absurd _ (plain.plain c member)
        rcases ends with ((rfl | rfl) | rfl) | rfl <;> decide
  · intro c first
    refine ⟨?_, plain.opens c first⟩
    rintro rfl
    exact plain.plain _ (List.mem_of_mem_head? first) (by decide)

namespace GlueTypes

theorem canNameField_iff {name : Text} : canNameField name = true ↔ PlainName name := by
  unfold canNameField
  simp only [Bool.not_eq_true', Bool.or_eq_false_iff, decide_eq_false_iff_not, List.any_eq_false, Bool.or_eq_true,
    decide_eq_true_eq]
  constructor
  · rintro ⟨⟨⟨some, plain⟩, opens⟩, closes⟩
    refine ⟨some, ?_, ?_, ?_⟩
    · intro c member special
      apply plain c member
      simpa [or_assoc] using special
    · intro c first
      rw [Option.mem_def] at first
      rw [first] at opens
      simpa using opens
    · intro c last
      rw [Option.mem_def] at last
      rw [last] at closes
      simpa using closes
  · rintro ⟨some, plain, opens, closes⟩
    refine ⟨⟨⟨some, ?_⟩, ?_⟩, ?_⟩
    · intro c member special
      apply plain c member
      simpa [or_assoc] using special
    · cases first : name.head? with
      | none => rfl
      | some c => exact opens c first
    · cases last : name.getLast? with
      | none => rfl
      | some c => exact closes c last

/-- The text of a type the parser reads as its canonical form. -/
structure Printed (text : Text) (canonical : Option LogicalType) (printed : TypeSyntax) : Prop where
  wf : printed.WellFormed
  readable : printed.Readable
  text : printed.text = text
  type : canonical = some printed.type

structure PrintedFields (text : Text) (canonical : Option (List (Text × LogicalType))) (printed : FieldsSyntax) : Prop where
  wf : printed.WellFormed
  readable : printed.Readable
  text : printed.text = text
  types : canonical = some printed.types

theorem spaces_nil : Spaces [] := by
  intro c member
  cases member

theorem printed_leaf {name : Text} {type : LogicalType} (known : leafTypes.lookup (lower name) = some type)
    (readable : lower name ≠ "timestamp with time zone".toList) : Printed name (some type) (.leaf [] name) := by
  refine ⟨⟨spaces_nil, by rw [known]; rfl⟩, readable, rfl, ?_⟩
  rw [TypeSyntax.type, known]
  rfl

/-- The digits of a width. -/
theorem numberOf_toString {n : ℕ} (small : n ≤ maxWidthDecimal) : numberOf (toString n).toList = n ∧
    (toString n).toList ≠ [] ∧ ∀ c ∈ (toString n).toList, c.isDigit = true := by
  have all : ∀ n ≤ 38, numberOf (toString n).toList = n ∧ (toString n).toList ≠ [] ∧
      ∀ c ∈ (toString n).toList, c.isDigit = true := by decide +kernel
  exact all n small

variable {typeName : LogicalType → Text}

theorem fromLogicalType_struct {fields : List (Text × LogicalType)} {text : Text} :
    fromLogicalType typeName (.struct fields) = .ok text ↔
      fields ≠ [] ∧ ∃ texts, fromFields typeName fields = .ok texts ∧ "struct<" ++ join texts ",".toList ++ ">" = text := by
  cases fields with
  | nil =>
      constructor
      · intro accepted
        cases accepted
      · intro accepted
        exact absurd rfl accepted.1
  | cons field fields => simp only [fromLogicalType, Fallible.bind_eq_ok, Fallible.pure_eq_ok, ne_eq, reduceCtorEq,
      not_false_eq_true, true_and]

theorem fromFields_cons {name : Text} {type : LogicalType} {fields : List (Text × LogicalType)} {texts : List Text} :
    fromFields typeName ((name, type) :: fields) = .ok texts ↔
      PlainName name ∧ ∃ typeText, fromLogicalType typeName type = .ok typeText ∧
        ∃ others, fromFields typeName fields = .ok others ∧ (name ++ ":" ++ typeText) :: others = texts := by
  simp only [fromFields, Fallible.guard_throw_eq_ok, Fallible.bind_eq_ok, Fallible.pure_eq_ok, Bool.not_eq_true',
    Bool.not_eq_false, canNameField_iff]

theorem fromFields_ne_nil {fields : List (Text × LogicalType)} {texts : List Text} (some : fields ≠ [])
    (accepted : fromFields typeName fields = .ok texts) : texts ≠ [] := by
  cases fields with
  | nil => exact absurd rfl some
  | cons field fields =>
      obtain ⟨-, _, -, _, -, rfl⟩ := fromFields_cons.mp accepted
      exact List.cons_ne_nil _ _

theorem join_cons {text : Text} {texts : List Text} (some : texts ≠ []) :
    join (text :: texts) ",".toList = text ++ ',' :: join texts ",".toList := by
  cases texts with
  | nil => exact absurd rfl some
  | cons next texts => simp [join, List.intercalate]

theorem printed_decimal {width scale : ℕ} (valid : (LogicalType.decimal width scale).Valid) :
    ∃ printed, Printed ("decimal(" ++ (toString width).toList ++ "," ++ (toString scale).toList ++ ")")
      (some (.decimal width scale)) printed := by
  obtain ⟨least, most, below⟩ := valid
  obtain ⟨widthValue, widthSome, widthDigits⟩ := numberOf_toString most
  obtain ⟨scaleValue, scaleSome, scaleDigits⟩ := numberOf_toString (below.trans most)
  let arguments : DecimalSyntax := ⟨[], ⟨[], (toString width).toList⟩, some ([], ⟨[], (toString scale).toList⟩), []⟩
  have widthRead : arguments.width.value = width := widthValue
  have scaleRead : arguments.scaleValue = scale := scaleValue
  refine ⟨.decimal [] "decimal".toList (some arguments), ⟨spaces_nil, .inl rfl, ?_⟩, trivial, ?_, ?_⟩
  · intro given here
    cases here
    refine ⟨spaces_nil, ⟨spaces_nil, widthSome, widthDigits⟩, ?_, spaces_nil, ?_⟩
    · intro other here
      cases here
      exact ⟨spaces_nil, spaces_nil, scaleSome, scaleDigits⟩
    · rw [widthRead, scaleRead]
      exact ⟨least, most, below⟩
  · simp only [TypeSyntax.text, Option.map_some, Option.getD_some, DecimalSyntax.text, DecimalSyntax.scaleText,
      NumberSyntax.text, arguments, List.append_assoc]
    rfl
  · rw [TypeSyntax.type, widthRead, scaleRead]

mutual

/-- What is printed is a text of the canonical form. -/
theorem exists_printed (type : LogicalType) (valid : type.Valid) {text : Text}
    (accepted : fromLogicalType typeName type = .ok text) : ∃ printed, Printed text type.canonical printed := by
  cases type with
  | boolean => cases accepted; exact ⟨_, printed_leaf (by rfl) (by decide)⟩
  | tinyint => cases accepted; exact ⟨_, printed_leaf (by rfl) (by decide)⟩
  | smallint => cases accepted; exact ⟨_, printed_leaf (by rfl) (by decide)⟩
  | integer => cases accepted; exact ⟨_, printed_leaf (by rfl) (by decide)⟩
  | bigint => cases accepted; exact ⟨_, printed_leaf (by rfl) (by decide)⟩
  | utinyint => cases accepted; exact ⟨_, printed_leaf (by rfl) (by decide)⟩
  | usmallint => cases accepted; exact ⟨_, printed_leaf (by rfl) (by decide)⟩
  | uinteger => cases accepted; exact ⟨_, printed_leaf (by rfl) (by decide)⟩
  | float => cases accepted; exact ⟨_, printed_leaf (by rfl) (by decide)⟩
  | double => cases accepted; exact ⟨_, printed_leaf (by rfl) (by decide)⟩
  | varchar => cases accepted; exact ⟨_, printed_leaf (by rfl) (by decide)⟩
  | blob => cases accepted; exact ⟨_, printed_leaf (by rfl) (by decide)⟩
  | date => cases accepted; exact ⟨_, printed_leaf (by rfl) (by decide)⟩
  | time => cases accepted; exact ⟨_, printed_leaf (by rfl) (by decide)⟩
  | timestamp => cases accepted; exact ⟨_, printed_leaf (by rfl) (by decide)⟩
  | timestampTz => cases accepted; exact ⟨_, printed_leaf (by rfl) (by decide)⟩
  | uuid => cases accepted; exact ⟨_, printed_leaf (by rfl) (by decide)⟩
  | variant => cases accepted; exact ⟨_, printed_leaf (by rfl) (by decide)⟩
  | decimal width scale =>
      cases accepted
      exact printed_decimal valid
  | list child =>
      simp only [fromLogicalType, Fallible.bind_eq_ok, Fallible.pure_eq_ok] at accepted
      obtain ⟨childText, childAccepted, rfl⟩ := accepted
      obtain ⟨printed, wf, readable, rfl, same⟩ := exists_printed child valid childAccepted
      refine ⟨.array [] "array".toList [] printed [], ⟨spaces_nil, by decide, spaces_nil, wf, spaces_nil⟩, readable, ?_, ?_⟩
      · simp only [TypeSyntax.text, List.nil_append, List.append_assoc]
        rfl
      · rw [LogicalType.canonical, same]
        rfl
  | map key value =>
      simp only [fromLogicalType, Fallible.bind_eq_ok, Fallible.pure_eq_ok] at accepted
      obtain ⟨keyText, keyAccepted, valueText, valueAccepted, rfl⟩ := accepted
      obtain ⟨keyPrinted, keyWf, keyReadable, rfl, keySame⟩ := exists_printed key valid.1 keyAccepted
      obtain ⟨valuePrinted, valueWf, valueReadable, rfl, valueSame⟩ := exists_printed value valid.2 valueAccepted
      refine ⟨.map [] "map".toList [] keyPrinted [] valuePrinted [],
        ⟨spaces_nil, by decide, spaces_nil, keyWf, spaces_nil, valueWf, spaces_nil⟩, ⟨keyReadable, valueReadable⟩, ?_, ?_⟩
      · simp only [TypeSyntax.text, List.nil_append, List.append_assoc]
        rfl
      · rw [LogicalType.canonical, keySame, valueSame]
        rfl
  | struct fields =>
      obtain ⟨some, texts, fieldsAccepted, rfl⟩ := fromLogicalType_struct.mp accepted
      obtain ⟨printed, wf, readable, text, same⟩ := exists_printedFields fields some valid fieldsAccepted
      refine ⟨.struct [] "struct".toList [] printed [], ⟨spaces_nil, by decide, spaces_nil, wf, spaces_nil⟩, readable, ?_, ?_⟩
      · simp only [TypeSyntax.text, List.nil_append, List.append_assoc, text]
        rfl
      · rw [LogicalType.canonical_struct some, same]
        rfl
  | unsupported name => cases accepted
termination_by sizeOf type

theorem exists_printedFields (fields : List (Text × LogicalType)) (some : fields ≠ [])
    (valid : LogicalType.ValidFields fields) {texts : List Text} (accepted : fromFields typeName fields = .ok texts) :
    ∃ printed, PrintedFields (join texts ",".toList) (LogicalType.canonicalFields fields) printed := by
  match fields with
  | [] => exact absurd rfl some
  | (name, type) :: others =>
      obtain ⟨plain, typeText, typeAccepted, otherTexts, othersAccepted, rfl⟩ := fromFields_cons.mp accepted
      obtain ⟨typePrinted, typeWf, typeReadable, rfl, typeSame⟩ := exists_printed type valid.1 typeAccepted
      have fieldWf : FieldSyntax.WellFormed ⟨[], false, name, []⟩ := ⟨spaces_nil, plain.field, spaces_nil⟩
      by_cases last : others = []
      · subst last
        cases othersAccepted
        refine ⟨.last ⟨[], false, name, []⟩ typePrinted, ⟨fieldWf, typeWf⟩, typeReadable, ?_, ?_⟩
        · simp [FieldsSyntax.text, FieldSyntax.text, join]
        · simp [LogicalType.canonicalFields, plain, typeSame, FieldsSyntax.types]
      · obtain ⟨printed, wf, readable, text, same⟩ := exists_printedFields others last valid.2 othersAccepted
        refine ⟨.cons ⟨[], false, name, []⟩ typePrinted [] printed, ⟨fieldWf, typeWf, spaces_nil, wf⟩,
          ⟨typeReadable, readable⟩, ?_, ?_⟩
        · rw [join_cons (fromFields_ne_nil last othersAccepted), FieldsSyntax.text, FieldSyntax.text, text]
          simp
        · rw [LogicalType.canonicalFields, same]
          simp [plain, typeSame, FieldsSyntax.types]
termination_by sizeOf fields

end

mutual

/-- Every type with a canonical form is printed. -/
theorem exists_text (type : LogicalType) {form : LogicalType} (canonical : type.canonical = some form) :
    ∃ text, fromLogicalType typeName type = .ok text := by
  match type with
  | .boolean | .tinyint | .smallint | .integer | .bigint | .utinyint | .usmallint | .uinteger => exact ⟨_, rfl⟩
  | .float | .double | .decimal _ _ | .varchar | .blob | .date | .time | .timestamp | .timestampTz => exact ⟨_, rfl⟩
  | .uuid | .variant => exact ⟨_, rfl⟩
  | .list child =>
      rw [LogicalType.canonical, Option.map_eq_some_iff] at canonical
      obtain ⟨_, childForm, -⟩ := canonical
      obtain ⟨text, accepted⟩ := exists_text child childForm
      rw [fromLogicalType, accepted]
      exact ⟨_, rfl⟩
  | .map key value =>
      rw [LogicalType.canonical] at canonical
      obtain ⟨_, keyForm, rest⟩ := Option.bind_eq_some_iff.mp canonical
      obtain ⟨_, valueForm, -⟩ := Option.bind_eq_some_iff.mp rest
      obtain ⟨keyText, keyAccepted⟩ := exists_text key keyForm
      obtain ⟨valueText, valueAccepted⟩ := exists_text value valueForm
      rw [fromLogicalType, keyAccepted, valueAccepted]
      exact ⟨_, rfl⟩
  | .struct fields =>
      have some : fields ≠ [] := by
        rintro rfl
        cases canonical
      rw [LogicalType.canonical_struct some, Option.map_eq_some_iff] at canonical
      obtain ⟨_, form, -⟩ := canonical
      obtain ⟨texts, accepted⟩ := exists_texts fields form
      exact ⟨_, fromLogicalType_struct.mpr ⟨some, texts, accepted, rfl⟩⟩
  | .unsupported _ => cases canonical
termination_by sizeOf type

theorem exists_texts (fields : List (Text × LogicalType)) {forms : List (Text × LogicalType)}
    (canonical : LogicalType.canonicalFields fields = some forms) : ∃ texts, fromFields typeName fields = .ok texts := by
  match fields with
  | [] => exact ⟨[], rfl⟩
  | (name, type) :: others =>
      rw [LogicalType.canonicalFields] at canonical
      obtain ⟨_, plain, rest⟩ := Option.bind_eq_some_iff.mp canonical
      obtain ⟨_, typeForm, rest⟩ := Option.bind_eq_some_iff.mp rest
      obtain ⟨_, othersForm, -⟩ := Option.bind_eq_some_iff.mp rest
      obtain ⟨typeText, typeAccepted⟩ := exists_text type typeForm
      obtain ⟨otherTexts, othersAccepted⟩ := exists_texts others othersForm
      have named : PlainName name := by simpa using plain
      exact ⟨_, fromFields_cons.mpr ⟨named, typeText, typeAccepted, otherTexts, othersAccepted, rfl⟩⟩
termination_by sizeOf fields

end

/-- What is printed is read back as the canonical form. -/
theorem reads_printed {type : LogicalType} (valid : type.Valid) {text : Text}
    (accepted : fromLogicalType typeName type = .ok text) :
    ∃ form, type.canonical = some form ∧ toLogicalType text = .ok form := by
  obtain ⟨printed, wf, readable, rfl, form⟩ := exists_printed type valid accepted
  refine ⟨printed.type, form, ?_⟩
  have read := toLogicalType_of_readable wf readable spaces_nil
  rwa [List.append_nil] at read

/-- Types survive a trip through Glue. -/
theorem toLogicalType_fromLogicalType (typeName : LogicalType → Text) :
    (∀ type : DuckType, type.logicalType.Valid →
      (∀ text, fromLogicalType typeName type.logicalType = .ok text →
          ∃ form, type.logicalType.canonical = some form ∧ toLogicalType text = .ok form) ∧
        ((∃ e, fromLogicalType typeName type.logicalType = .error e) ↔ type.logicalType.canonical = none)) ∧
      ∀ a b : LogicalType, a.Valid → b.Valid → a.canonical = some a → b.canonical = some b →
        fromLogicalType typeName a = fromLogicalType typeName b → a = b := by
  constructor
  · intro type valid
    refine ⟨fun text accepted => reads_printed valid accepted, ?_⟩
    constructor
    · rintro ⟨e, refused⟩
      cases form : type.logicalType.canonical with
      | none => rfl
      | some form' =>
          obtain ⟨text, accepted⟩ := @exists_text typeName _ _ form
          rw [accepted] at refused
          cases refused
    · intro none
      cases printed : fromLogicalType typeName type.logicalType with
      | error e => exact ⟨e, rfl⟩
      | ok text =>
          obtain ⟨form, some, -⟩ := reads_printed valid printed
          rw [none] at some
          cases some
  · intro a b aValid bValid aForm bForm same
    obtain ⟨text, accepted⟩ := @exists_text typeName _ _ aForm
    obtain ⟨form, aSame, aRead⟩ := reads_printed aValid accepted
    obtain ⟨form', bSame, bRead⟩ := reads_printed bValid (same ▸ accepted)
    rw [aForm] at aSame
    rw [bForm] at bSame
    cases aSame
    cases bSame
    rw [aRead] at bRead
    cases bRead
    rfl

/-- A map of prices under a collated key, with an alias of an unsigned type. -/
def priceList : DuckType :=
  .map (.collated "nocase".toList) (.struct [("Net Price".toList, .plain (.decimal 38 10)),
    ("(count)".toList, .aliased "amount".toList (.plain .usmallint))])

theorem toLogicalType_fromLogicalType_priceList :
    ∃ form, priceList.logicalType.canonical = some form ∧
      toLogicalType "map<string,struct<Net Price:decimal(38,10),(count):int>>".toList = .ok form :=
  ((toLogicalType_fromLogicalType fun _ => []).1 priceList
    ⟨trivial, ⟨by decide, by decide, by decide⟩, trivial, trivial⟩).1 _ rfl

end GlueTypes

end DuckGlue
