import DuckGlue.Planning.FieldEscape
import DuckGlue.Planning.HiveScanInfo

/-! # How a field becomes a value

A scan reads every field of a SerDe text table as text and rewrites the expression that
maps it to its column (`InitializeReader`). The exported reader call spells a conversion
of its own over the reader's column (`ReaderColumn`). Both are made of DuckDB's functions,
of which nothing is assumed but how they meet NULL and errors.
-/

namespace DuckGlue

open StringUtil

/-- `HiveFieldConversion` -/
inductive HiveFieldConversion where
  /-- `NONE`, for a string column. -/
  | text
  | cast
  | tryCast
  | falseUnlessTrue
  | epoch
  | tryEpoch
  deriving Repr, DecidableEq

/-- `FieldConversion` -/
def HiveCSVOptions.fieldConversion (options : HiveCSVOptions) (type : LogicalType) : HiveFieldConversion :=
  if type.same .varchar then .text
  else if options.falseUnlessTrue && type.same .boolean then .falseUnlessTrue
  else if options.epochFields && (type.same .timestamp || type.same .date) then
    if options.nullForInvalidData then .tryEpoch else .epoch
  else if options.nullForInvalidData then .tryCast
  else .cast

/-- An expression over the columns a reader gives, bound or parsed. -/
inductive SQLExpression (Value : Type) where
  | columnRef (name : Text) (type : LogicalType)
  | constant (type : LogicalType) (value : Option Value)
  | cast (target : LogicalType) (tryCast : Bool) (child : SQLExpression Value)
  /-- `__internal_barrier` -/
  | barrier (child : SQLExpression Value)
  | contains (text search : SQLExpression Value)
  | regexpReplace (text pattern replacement options : SQLExpression Value)
  | lower (child : SQLExpression Value)
  | equal (left right : SQLExpression Value)
  /-- `+` of a date and a number of days. -/
  | add (date days : SQLExpression Value)
  | makeTimestampMs (child : SQLExpression Value)
  | decode (child : SQLExpression Value)
  | caseWhen (check result otherwise : SQLExpression Value)
  /-- `OPERATOR_TRY` -/
  | tryOperator (child : SQLExpression Value)

/-- NULL, a value, or an error that fails the query. -/
abbrev SQLResult (Value : Type) := Except Unit (Option Value)

/-- The functions of DuckDB on values; `none` fails the query. -/
structure DuckDBFunctions (Value : Type) extends ValueCasts Value where
  /-- `CAST` of a value of any type. -/
  cast : LogicalType → Value → Option Value
  cast_ofText : ∀ type text, cast type (ofText text) = tryCastAs text type
  /-- `DATE '1970-01-01'` -/
  epoch : Value
  isTrue : Value → Bool
  contains : Value → Value → Option Value
  regexpReplace : Value → Value → Value → Value → Option Value
  lower : Value → Option Value
  equal : Value → Value → Option Value
  add : Value → Value → Option Value
  makeTimestampMs : Value → Option Value
  decode : Value → Option Value

namespace SQLResult

variable {Value : Type}

def ofOption : Option Value → SQLResult Value
  | some value => .ok (some value)
  | none => .error ()

/-- A function of NULL is NULL. -/
def strict (argument : SQLResult Value) (function : Value → SQLResult Value) : SQLResult Value :=
  match argument with
  | .ok (some value) => function value
  | .ok none => .ok none
  | .error failed => .error failed

end SQLResult

namespace SQLExpression

variable {Value : Type}

section Evaluate

variable (db : DuckDBFunctions Value) (column : Text → SQLResult Value)

open SQLResult

def evaluate : SQLExpression Value → SQLResult Value
  | .columnRef name _ => column name
  | .constant _ value => .ok value
  | .cast target tryCast child =>
      strict child.evaluate fun value =>
        if tryCast then .ok (db.cast target value) else ofOption (db.cast target value)
  | .barrier child => child.evaluate
  | .contains text search =>
      strict text.evaluate fun text => strict search.evaluate fun search => ofOption (db.contains text search)
  | .regexpReplace text pattern replacement options =>
      strict text.evaluate fun text =>
        strict pattern.evaluate fun pattern =>
          strict replacement.evaluate fun replacement =>
            strict options.evaluate fun options => ofOption (db.regexpReplace text pattern replacement options)
  | .lower child => strict child.evaluate fun value => ofOption (db.lower value)
  | .equal left right =>
      strict left.evaluate fun left => strict right.evaluate fun right => ofOption (db.equal left right)
  | .add date days => strict date.evaluate fun date => strict days.evaluate fun days => ofOption (db.add date days)
  | .makeTimestampMs child => strict child.evaluate fun value => ofOption (db.makeTimestampMs value)
  | .decode child => strict child.evaluate fun value => ofOption (db.decode value)
  | .caseWhen check result otherwise =>
      match check.evaluate with
      | .error failed => .error failed
      | .ok (some value) => if db.isTrue value then result.evaluate else otherwise.evaluate
      | .ok none => otherwise.evaluate
  | .tryOperator child =>
      match child.evaluate with
      | .error _ => .ok none
      | .ok value => .ok value

end Evaluate

/-- `GetReturnType` -/
def returnType : SQLExpression Value → LogicalType
  | .columnRef _ type | .constant type _ | .cast type _ _ => type
  | .barrier child | .tryOperator child | .caseWhen _ child _ => child.returnType
  | .contains _ _ | .equal _ _ => .boolean
  | .regexpReplace _ _ _ _ | .lower _ | .decode _ => .varchar
  | .add _ _ => .date
  | .makeTimestampMs _ => .timestamp

/-- `IsFoldable` -/
def isFoldable : SQLExpression Value → Bool
  | .columnRef _ _ | .barrier _ => false
  | .constant _ _ => true
  | .cast _ _ child | .lower child | .makeTimestampMs child | .decode child | .tryOperator child => child.isFoldable
  | .contains text search => text.isFoldable && search.isFoldable
  | .regexpReplace text pattern replacement options =>
      text.isFoldable && pattern.isFoldable && replacement.isFoldable && options.isFoldable
  | .equal left right => left.isFoldable && right.isFoldable
  | .add date days => date.isFoldable && days.isFoldable
  | .caseWhen check result otherwise => check.isFoldable && result.isFoldable && otherwise.isFoldable

variable (db : DuckDBFunctions Value) (options : HiveCSVOptions)

/-- A text constant. -/
def text (value : Text) : SQLExpression Value := .constant .varchar (some (db.ofText value))

/-- The escape character of a text dropped; only a text that holds it goes through
`regexp_replace`. -/
def withoutEscape (field : SQLExpression Value) : SQLExpression Value :=
  .caseWhen (.contains field (text db options.fieldEscape))
    (.regexpReplace field (text db options.fieldEscapePattern) (text db "\\1") (text db "g")) field

/-! ## The scan -/

/-- How a reader's column is mapped to a column of the scan: read as it is, cast to its
type, or NULL where the file has none. -/
def mapColumn (own : Option LogicalType) (name : Text) (type : LogicalType) : SQLExpression Value :=
  match own with
  | none => .constant type none
  | some own => if own.same type then .columnRef name own else .cast type false (.columnRef name own)

/-- `MakeTryCast` -/
def makeTryCast : SQLExpression Value → SQLExpression Value
  | .cast target tryCast child =>
      if tryCast || !child.returnType.same .varchar then .cast target tryCast child else .cast target true child
  | expr => expr

/-- `DecodeBlobAsText` -/
def decodeBlobAsText : SQLExpression Value → SQLExpression Value
  | .cast target tryCast child =>
      if target.same .varchar && child.returnType.same .blob then .decode child else .cast target tryCast child
  | expr => expr

/-- `MakeFalseUnlessTrue` -/
def makeFalseUnlessTrue : SQLExpression Value → SQLExpression Value
  | .cast target tryCast child =>
      if target.same .boolean && child.returnType.same .varchar then .equal (.lower child) (text db "true")
      else .cast target tryCast child
  | expr => expr

/-- `MakeEpoch` -/
def makeEpoch (tryCast : Bool) : SQLExpression Value → SQLExpression Value
  | .cast target strict child =>
      if (target.same .date || target.same .timestamp) && child.returnType.same .varchar then
        let value :=
          if target.same .date then .add (.constant .date (some db.epoch)) (.cast .integer tryCast child)
          else .makeTimestampMs (.cast .bigint tryCast child)
        -- a number out of the type's range is NULL too
        if tryCast then .tryOperator value else value
      else .cast target strict child
  | expr => expr

/-- The text of `UnescapeField`. -/
def unescapeText (field : SQLExpression Value) : SQLExpression Value :=
  if !field.returnType.same .varchar || field.isFoldable then field else withoutEscape db options field

/-- `UnescapeField` -/
def unescapeField : SQLExpression Value → SQLExpression Value
  | .cast target tryCast child => .cast target tryCast (unescapeText db options child)
  | expr => unescapeText db options expr

/-- `InitializeReader` for the column of a text table with SerDe fields. -/
def convertField (expr : SQLExpression Value) : SQLExpression Value :=
  let expr := if options.fieldEscape = [] then expr else unescapeField db options expr
  match options.fieldConversion expr.returnType with
  | .text | .cast => expr
  | .tryCast => makeTryCast expr
  | .falseUnlessTrue => makeFalseUnlessTrue db expr
  | .epoch => makeEpoch db false expr
  | .tryEpoch => makeEpoch db true expr

/-! ## The reader call -/

/-- `BarredField` -/
def barredField (name : Text) : SQLExpression Value := .barrier (.columnRef name .varchar)

/-- `UnescapedField` -/
def unescapedField (field : SQLExpression Value) : SQLExpression Value :=
  if options.fieldEscape = [] then field else withoutEscape db options field

/-- `ReaderColumn` -/
def readerColumn (scan : HiveScanInfo) (name : Text) (type : LogicalType) : SQLExpression Value :=
  let options := scan.csvOptions
  if scan.fileFormat ≠ .csv ∨ options.serdeFields = false then .columnRef name type
  else
    let field := unescapedField db options (barredField name)
    match options.fieldConversion type with
    | .text => unescapedField db options (.columnRef name type)
    | .cast => .cast type false field
    | .tryCast => .cast type true field
    | .falseUnlessTrue => .equal (.lower field) (text db "true")
    | .epoch =>
        if type.same .date then .add (.constant .date (some db.epoch)) (.cast .integer false field)
        else .makeTimestampMs (.cast .bigint false field)
    | .tryEpoch =>
        .tryOperator
          (if type.same .date then .add (.constant .date (some db.epoch)) (.cast .integer true field)
          else .makeTimestampMs (.cast .bigint true field))

/-! ## Both convert alike -/

variable {db : DuckDBFunctions Value} {options : HiveCSVOptions} {column : Text → SQLResult Value} {name : Text}
  {type : LogicalType}

theorem varchar_same : LogicalType.varchar.same type = type.same .varchar := by
  cases type <;> rfl

theorem fieldConversion_eq_text : options.fieldConversion type = .text ↔ type.same .varchar = true := by
  unfold HiveCSVOptions.fieldConversion
  split_ifs with text
  · exact iff_of_true rfl text
  all_goals exact iff_of_false nofun text

/-- A boolean is what is false unless true. -/
theorem boolean_of_fieldConversion (conversion : options.fieldConversion type = .falseUnlessTrue) :
    type.same .boolean = true := by
  unfold HiveCSVOptions.fieldConversion at conversion
  split_ifs at conversion with text boolean
  exact (Bool.and_eq_true_iff.mp boolean).2

/-- Dates and timestamps are the numbers since the epoch. -/
theorem date_or_timestamp_of_fieldConversion
    (conversion : options.fieldConversion type = .epoch ∨ options.fieldConversion type = .tryEpoch) :
    (type.same .date || type.same .timestamp) = true := by
  unfold HiveCSVOptions.fieldConversion at conversion
  by_contra other
  rw [Bool.or_comm] at other
  simp only [other, Bool.and_false, Bool.false_eq_true, if_false] at conversion
  split_ifs at conversion
  all_goals simp at conversion

/-- The text of a field, its escape character dropped where it has one. -/
def fieldText (db : DuckDBFunctions Value) (options : HiveCSVOptions) (name : Text) : SQLExpression Value :=
  if options.fieldEscape = [] then .columnRef name .varchar else withoutEscape db options (.columnRef name .varchar)

theorem evaluate_unescapedField :
    (unescapedField db options (barredField name)).evaluate db column = (fieldText db options name).evaluate db column := by
  unfold unescapedField fieldText
  split_ifs
  · rfl
  · rfl

theorem evaluate_unescaped_columnRef :
    (unescapedField db options (.columnRef name type)).evaluate db column = (fieldText db options name).evaluate db column := by
  unfold unescapedField fieldText
  split_ifs
  · rfl
  · rfl

theorem returnType_fieldText : (fieldText db options name).returnType = .varchar := by
  unfold fieldText
  split_ifs
  · rfl
  · rfl

/-- The expression the scan converts is its text, cast to the column's type unless that is text too. -/
theorem unescaped_mapColumn (expr : SQLExpression Value) (mapped : expr = mapColumn (some .varchar) name type) :
    (if options.fieldEscape = [] then expr else unescapeField db options expr) =
      if type.same .varchar then fieldText db options name else .cast type false (fieldText db options name) := by
  subst mapped
  unfold mapColumn fieldText
  dsimp only
  rw [varchar_same]
  split_ifs
  · rfl
  · rfl
  · rfl
  · rfl

/-- `InitializeReader` and `ReaderColumn` convert a field to the same value, NULL or error. -/
theorem evaluate_convertField {scan : HiveScanInfo} (csv : scan.fileFormat = .csv)
    (serde : scan.csvOptions.serdeFields = true) :
    (convertField db scan.csvOptions (mapColumn (some .varchar) name type)).evaluate db column =
      (readerColumn db scan name type).evaluate db column := by
  have differs : ¬(scan.fileFormat ≠ .csv ∨ scan.csvOptions.serdeFields = false) := by simp [csv, serde]
  unfold convertField readerColumn
  dsimp only
  rw [unescaped_mapColumn _ rfl, if_neg differs]
  have barred : (unescapedField db scan.csvOptions (barredField name)).evaluate db column =
      (fieldText db scan.csvOptions name).evaluate db column := evaluate_unescapedField
  have typed : (fieldText db scan.csvOptions name).returnType.same .varchar = true := by rw [returnType_fieldText]; rfl
  cases text : type.same .varchar with
  | true =>
      rw [if_pos rfl, returnType_fieldText, fieldConversion_eq_text.mpr rfl, fieldConversion_eq_text.mpr text]
      exact evaluate_unescaped_columnRef.symm
  | false =>
      rw [if_neg Bool.false_ne_true, returnType]
      cases conversion : scan.csvOptions.fieldConversion type with
      | text => exact absurd (text.symm.trans (fieldConversion_eq_text.mp conversion)) Bool.false_ne_true
      | cast =>
          dsimp only [evaluate]
          rw [barred]
      | tryCast =>
          dsimp only [makeTryCast]
          rw [typed, Bool.not_true, Bool.or_self, if_neg Bool.false_ne_true]
          dsimp only [evaluate]
          rw [barred]
      | falseUnlessTrue =>
          dsimp only [makeFalseUnlessTrue]
          rw [typed, boolean_of_fieldConversion conversion, Bool.and_self, if_pos rfl]
          dsimp only [evaluate]
          rw [barred]
      | epoch =>
          dsimp only [makeEpoch]
          rw [typed, date_or_timestamp_of_fieldConversion (.inl conversion), Bool.and_self, if_pos rfl,
            if_neg Bool.false_ne_true]
          cases type.same .date with
          | true => simp only [if_true, evaluate, barred]
          | false => simp only [Bool.false_eq_true, if_false, evaluate, barred]
      | tryEpoch =>
          dsimp only [makeEpoch]
          rw [typed, date_or_timestamp_of_fieldConversion (.inr conversion), Bool.and_self, if_pos rfl, if_pos rfl]
          cases type.same .date with
          | true => simp only [if_true, evaluate, barred]
          | false => simp only [Bool.false_eq_true, if_false, evaluate, barred]

end SQLExpression

end DuckGlue
