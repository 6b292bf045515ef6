import DuckGlue.Core.TextSerde
import DuckGlue.Lib.DelimitedText
import DuckGlue.Lib.Fallible

/-! # The fields of text files

An INSERT into a csv table writes every data column as text: a value its files can not
hold is refused, the others are escaped. Reading splits the lines at the delimiter
again. A LazySimpleSerDe table reads its rows back unless its NULL string is no field
of its own, an escaped value is spelled like it, or a row is a blank line.
-/

namespace DuckGlue

open StringUtil Fallible

namespace StringUtil

/-- `replace` of SQL, left to right; `skip` characters are those replaced already. -/
def replaceFrom (source target : Text) : Nat → Text → Text
  | _, [] => []
  | skip + 1, _ :: text => replaceFrom source target skip text
  | 0, c :: text =>
      if source ≠ [] ∧ startsWith (c :: text) source = true then
        target ++ replaceFrom source target (source.length - 1) text
      else c :: replaceFrom source target 0 text

def replace (text source target : Text) : Text := replaceFrom source target 0 text

/-- A single character is replaced wherever it is. -/
theorem replace_char (c : Char) (target text : Text) :
    replace text [c] target = text.flatMap fun x => if x = c then target else [x] := by
  unfold replace
  induction text with
  | nil => rfl
  | cons x text ih =>
      rw [replaceFrom, List.flatMap_cons, ← ih]
      by_cases same : x = c
      · subst same
        rw [if_pos ⟨by simp, by simp⟩, if_pos rfl]
        rfl
      · have differs : ¬ startsWith (x :: text) [c] = true := by simp [Ne.symm same]
        rw [if_neg (fun h => differs h.2), if_neg same]
        rfl

end StringUtil

/-- A character that ends a line. -/
def isLineBreak (c : Char) : Bool := c = '\n' || c = '\r'

/-- `DelimiterToString` -/
def delimiterToString (delimiter : Text) : Text :=
  delimiter.flatMap fun c =>
    if c.toNat < 0x20 then
      ['\\', Nat.digitChar (c.toNat / 64), Nat.digitChar (c.toNat / 8 % 8), Nat.digitChar (c.toNat % 8)]
    else [c]

/-- How `PlanWrite` writes the data columns of a csv table: the options of the copy, and
the projection below it. -/
structure TextFields where
  headerLines : Nat
  delimiter : Text
  quote : Text
  /-- The escape of the copy, which DuckDB applies in quotes only. -/
  copyEscape : Text
  nullString : Text
  quoted : Bool
  /-- What `EscapedTextField` puts before a character; LazySimpleSerDe's before the
  delimiter as well. -/
  escape : Text
  escapesDelimiter : Bool
  forbidden : Text
  reason : Text
  deriving Repr, DecidableEq

namespace GlueHiveInsert

section Fields

variable (db : DuckDB) (table : GlueTableInfo)

def headerLinesError (headerLines : Nat) : Exception :=
  .notImplemented ("Writing to Hive table '" ++ table.schemaName ++ "." ++ table.name ++
    "' is not supported: its files start with " ++ toString headerLines ++
    " header lines, DuckDB writes at most one")

def delimiterError (delimiter : Text) : Exception :=
  .notImplemented ("Writing to Hive table '" ++ table.schemaName ++ "." ++ table.name ++
    "' is not supported: DuckDB writes single-byte field delimiters only, the table's is '" ++ delimiter ++ "'")

/-- Why a value is refused. -/
def refusalReason (quoted : Bool) (escape delimiter nullString : Text) : Text :=
  if quoted then "holds a line break"
  else if escape ≠ [] then "holds a line break or is the table's NULL string '" ++ nullString ++ "'"
  else "holds the field delimiter '" ++ delimiterToString delimiter ++
    "' or a line break, or is the table's NULL string '" ++ nullString ++ "'"

/-- The csv case of `PlanWrite`, for columns of type VARCHAR. -/
def planTextFields : Except Exception TextFields := do
  table.checkTextSerdeSupported db .csv
  let headerLines ← table.getHeaderLineCount db
  if headerLines > 1 then throw (headerLinesError table headerLines)
  let delimiter ← table.getFieldDelimiter db
  let serde ← table.getSerDe
  let quoted : Bool := serde = .openCsv
  let nullString ← table.getNullFormat
  if size delimiter > 1 then throw (delimiterError table delimiter)
  let quote ← table.getQuoteCharacter
  let tableEscape ← table.getEscapeCharacter
  let escape := if quoted then [] else tableEscape
  let csvOptions ← table.getCSVOptions db
  return {
    headerLines, delimiter, quote, nullString, quoted
    copyEscape := if quoted then tableEscape else []
    escape := if escape ≠ [] then escape else csvOptions.fieldEscape
    escapesDelimiter := escape ≠ []
    forbidden := if quoted || escape ≠ [] then "\n\r" else "\n\r" ++ delimiter
    reason := refusalReason quoted escape delimiter nullString }

def fieldError (fields : TextFields) (column : Text) : Exception :=
  .invalidInput ("Writing to Hive table '" ++ table.schemaName ++ "." ++ table.name ++
    "' failed: a value of column '" ++ column ++ "' " ++ fields.reason ++ ", which the table's " ++
    (if fields.quoted then "OpenCSVSerde" else "LazySimpleSerDe").toList ++ " files can not hold in a field")

/-- `CheckedTextField`; only unquoted fields can not tell the NULL string from NULL. -/
def checkedTextField (fields : TextFields) (column : Text) (value : Option Text) : Except Exception (Option Text) :=
  match value with
  | none => .ok none
  | some text =>
      if text.any (· ∈ fields.forbidden) || (!fields.quoted && text = fields.nullString) then
        .error (fieldError table fields column)
      else .ok (some text)

/-- `EscapedTextField` -/
def escapedTextField (text escape delimiter : Text) : Text :=
  let specials := if delimiter = [] then [escape] else [escape, delimiter]
  specials.foldl (fun text special => replace text special (escape ++ special)) text

/-- A data column of the projection. -/
def textField (fields : TextFields) (column : Text) (value : Option Text) : Except Exception (Option Text) := do
  let text ← checkedTextField table fields column value
  if fields.escape = [] then return text
  else return text.map fun text =>
    escapedTextField text fields.escape (if fields.escapesDelimiter then fields.delimiter else [])

/-- The projected data columns of a row. -/
def textRow (fields : TextFields) (columns : List Text) (row : List (Option Text)) :
    Except Exception (List (Option Text)) :=
  (columns.zip row).mapM fun (column, value) => textField table fields column value

end Fields

/-- What the copy writes of unquoted rows: the fields with the delimiter between them,
NULL as the NULL string, and a line break after every row. -/
def copyText (fields : TextFields) (rows : List (List (Option Text))) : Text :=
  rows.flatMap fun row => join (row.map (·.getD fields.nullString)) fields.delimiter ++ ['\n']

end GlueHiveInsert

/-- The characters the lines of an unquoted csv table are split at. -/
def HiveCSVOptions.dialect (options : HiveCSVOptions) : Option (DelimitedText.Dialect Char) :=
  match options.delimiter with
  | [separator] =>
      if h : isLineBreak separator = false ∧ options.escape.head? ≠ some separator then
        some {
          separator
          escape := options.escape.head?
          isBreak := isLineBreak
          separator_stays := h.1
          separator_ne_escape := h.2 }
      else none
  | _ => none

/-- The rows of an unquoted text file: its lines split at the delimiter, blank lines
skipped, the NULL string NULL, and a short row padded with NULL. -/
def readTextFile (options : HiveCSVOptions) (columns : Nat) (text : Text) : Option (List (List (Option Text))) :=
  options.dialect.map fun dialect => DelimitedText.readText dialect options.nullString columns text

/-- The NULL string is one field of its line: no line break but an escaped one, and no
escape at its end. -/
def isOneField (escape : Text) : Bool → Text → Bool
  | open_, [] => !open_
  | true, _ :: text => isOneField escape false text
  | false, c :: text => !isLineBreak c && isOneField escape (escape = [c]) text

/-- A text with its escape characters doubled. -/
def doubledEscapes (escape text : Text) : Text :=
  text.flatMap fun c => if escape = [c] then [c, c] else [c]

/-- What the rows and the text settings of a LazySimpleSerDe table must satisfy for the
rows to be read back. -/
structure ReadableFields (fields : TextFields) (columns : Nat) (rows : List (List (Option Text))) : Prop where
  missing : ∀ row ∈ rows, none ∈ row → isOneField fields.escape false fields.nullString = true
  /-- A line break is no escape for a delimiter. -/
  escaped : ∀ row ∈ rows, ∀ text, some text ∈ row → contains text fields.delimiter = true →
    fields.escape.any isLineBreak = false
  distinct : ∀ row ∈ rows, ∀ text, some text ∈ row → doubledEscapes fields.escape text ≠ fields.nullString
  /-- No row of one column is a blank line. -/
  visible : columns = 1 → ∀ row ∈ rows, row ≠ [some []] ∧ (fields.nullString = [] → row ≠ [none])

section LazySimple

open GlueHiveInsert GlueTableInfo DelimitedText DelimitedText.Dialect

variable {db : DuckDB} {table : GlueTableInfo} {fields : TextFields} {options : HiveCSVOptions}

/-- The settings of a LazySimpleSerDe table, the same to the reader and the writer. -/
structure LazyFields (fields : TextFields) (options : HiveCSVOptions) (dialect : Dialect Char) : Prop where
  breaks : dialect.isBreak = isLineBreak
  delimiter : fields.delimiter = [dialect.separator]
  escape : fields.escape = dialect.escape.toList
  escapesDelimiter : fields.escapesDelimiter = dialect.escape.isSome
  unquoted : fields.quoted = false
  forbidden : ∀ c, c ∈ fields.forbidden ↔ isLineBreak c = true ∨ dialect.escape = none ∧ c = dialect.separator
  undelimited : dialect.separator ∉ fields.nullString
  nullString : options.nullString = fields.nullString
  dialect : options.dialect = some dialect

theorem exists_toList {text : Text} (oneByte : size text ≤ 1) : ∃ c : Option Char, text = c.toList := by
  cases text with
  | nil => exact ⟨none, rfl⟩
  | cons c text =>
      cases text with
      | nil => exact ⟨some c, rfl⟩
      | cons d text =>
          have first := Char.utf8Size_pos c
          have second := Char.utf8Size_pos d
          simp only [size, List.map_cons, List.sum_cons] at oneByte
          omega

theorem lazySimpleSeparator_eq_ok {value delimiter : Text} (h : table.lazySimpleSeparator db value = .ok delimiter) :
    ∃ c, delimiter = [c] ∧ isLineBreak c = false := by
  unfold lazySimpleSeparator at h
  split at h
  · cases h
    exact ⟨_, rfl, by decide⟩
  · dsimp only at h
    split_ifs at h with refused
    cases h
    refine ⟨_, rfl, ?_⟩
    have ascii : ∀ n < 128, n ≠ 10 → n ≠ 13 → isLineBreak (Char.ofNat n) = false := by decide
    exact ascii _ (by omega) (by omega) (by omega)

theorem mem_forbidden {escape delimiter : Text} {c : Char} :
    c ∈ (if (false || decide (escape ≠ [])) = true then ("\n\r" : Text) else "\n\r" ++ delimiter) ↔
      isLineBreak c = true ∨ escape = [] ∧ c ∈ delimiter := by
  by_cases none : escape = [] <;> simp [none, isLineBreak, or_assoc]

theorem contains_char {text : Text} {c : Char} : contains text [c] = true ↔ c ∈ text := by
  rw [contains_iff, List.singleton_infix_iff]

theorem throw_eq_error {ε α : Type} (e : ε) : (throw e : Except ε α) = .error e := rfl

/-- What the plan of a LazySimpleSerDe table and its reader agree on. -/
theorem lazyFields_of_plan (serde : table.getSerDe = .ok .lazySimple) (planned : planTextFields db table = .ok fields)
    (read : table.getCSVOptions db = .ok options) : ∃ dialect, LazyFields fields options dialect := by
  unfold planTextFields at planned
  simp only [bind_eq_ok, exists_unit_ok, guard_eq_ok (throw_eq_error _), pure_eq_ok] at planned
  obtain ⟨supported, headerLines, -, -, delimiter, delimited, serde', serdeIs, nullString, nulls, -, quote, -, escape,
    escaped, csvOptions, csvRead, rfl⟩ := planned
  cases serde.symm.trans serdeIs
  cases read.symm.trans csvRead
  unfold getCSVOptions at read
  simp only [bind_eq_ok, pure_eq_ok] at read
  obtain ⟨delimiter', delimited', quote', -, escape', escaped', skipLines, -, serde', serdeIs', nullString', nulls', rfl⟩ :=
    read
  cases serde.symm.trans serdeIs'
  cases delimited.symm.trans delimited'
  cases escaped.symm.trans escaped'
  cases nulls.symm.trans nulls'
  obtain ⟨-, -, serde', serdeIs'', settings⟩ := checkTextSerdeSupported_csv.mp supported
  cases serde.symm.trans serdeIs''
  rw [if_neg (by decide)] at settings
  obtain ⟨escape', delimiter', nullString', settings⟩ := settings
  cases settings.escaped.symm.trans escaped
  cases settings.delimited.symm.trans delimited
  cases settings.nulls.symm.trans nulls
  obtain ⟨escapeChar, rfl⟩ := exists_toList (by simpa using settings.oneByte)
  unfold getFieldDelimiter at delimited
  rw [serde] at delimited
  obtain ⟨separator, rfl, stays⟩ := lazySimpleSeparator_eq_ok delimited
  have differs : escapeChar ≠ some separator := by
    rintro rfl
    exact settings.differs rfl
  have head : escapeChar.toList.head? = escapeChar := by cases escapeChar <;> rfl
  exact ⟨⟨separator, escapeChar, isLineBreak, stays, differs⟩, {
    breaks := rfl
    delimiter := rfl
    escape := by cases escapeChar <;> rfl
    escapesDelimiter := by cases escapeChar <;> rfl
    unquoted := rfl
    forbidden := by
      intro c
      have mem := @mem_forbidden escapeChar.toList [separator] c
      cases escapeChar <;> simpa using mem
    undelimited := fun member => settings.undelimited (contains_char.mpr member)
    nullString := rfl
    dialect := by
      simp only [HiveCSVOptions.dialect, head]
      rw [dif_pos ⟨stays, differs⟩] }⟩

section Rows

variable {dialect : Dialect Char} (lazy : LazyFields fields options dialect)
include lazy

/-- A LazySimpleSerDe value is escaped as its reader unescapes it. -/
theorem escapedTextField_eq (text : Text) (used : fields.escape ≠ []) :
    escapedTextField text fields.escape (if fields.escapesDelimiter then fields.delimiter else []) =
      dialect.escaped text := by
  cases escape : dialect.escape with
  | none => simp [lazy.escape, escape] at used
  | some e =>
      have differs : e ≠ dialect.separator := by
        intro same
        exact dialect.separator_ne_escape (same ▸ escape)
      simp only [escapedTextField, lazy.escape, lazy.escapesDelimiter, lazy.delimiter, escape, Option.isSome_some, if_true,
        Option.toList_some, List.cons_ne_nil, if_false, List.foldl_cons, List.foldl_nil, replace_char, escaped,
        List.flatMap_assoc]
      -- the escape is doubled first, and is no delimiter
      refine List.flatMap_congr fun c _ => ?_
      by_cases isEscape : c = e
      · simp [isEscape, differs]
      · by_cases isSeparator : c = dialect.separator <;> simp [isEscape, isSeparator, Ne.symm differs]

theorem refused_eq_false {text : Text} : (text.any (· ∈ fields.forbidden) || (!fields.quoted && text = fields.nullString)) =
    false ↔ Writable dialect fields.nullString [some text] := by
  simp only [Writable, List.mem_singleton, Option.some.injEq, forall_eq, lazy.breaks, lazy.unquoted, Bool.or_eq_false_iff,
    List.any_eq_false, decide_eq_true_eq, lazy.forbidden, Bool.not_false, Bool.true_and, decide_eq_false_iff_not]
  constructor
  · rintro ⟨allowed, differs⟩
    refine ⟨fun c member => ?_, differs, fun bare member => ?_⟩
    · have stays := allowed c member
      grind
    · exact allowed _ member (.inr ⟨bare, rfl⟩)
  · rintro ⟨stays, differs, bare⟩
    refine ⟨fun c member => ?_, differs⟩
    rintro (breaks | ⟨none, rfl⟩)
    · rw [stays c member] at breaks
      cases breaks
    · exact bare none member

/-- What a LazySimpleSerDe field may hold and how it is written. -/
theorem textField_eq_ok {column : Text} {value field : Option Text} :
    textField table fields column value = .ok field ↔ Writable dialect fields.nullString [value] ∧
      field = value.map dialect.escaped := by
  have written : ∀ text : Text, (if fields.escape = [] then some text else some (escapedTextField text fields.escape
      (if fields.escapesDelimiter then fields.delimiter else []))) = some (dialect.escaped text) := by
    intro text
    by_cases bare : fields.escape = []
    · have inert : dialect.escape = none := by
        rw [lazy.escape] at bare
        exact Option.toList_eq_nil_iff.mp bare
      rw [if_pos bare, Dialect.escaped, inert]
    · rw [if_neg bare, escapedTextField_eq lazy text bare]
  cases value with
  | none =>
      have null : textField table fields column none = .ok none := by
        unfold textField checkedTextField
        by_cases bare : fields.escape = [] <;> simp only [bare, if_true, if_false] <;> rfl
      rw [null, Except.ok.injEq]
      constructor
      · rintro rfl
        exact ⟨by simp [Writable], rfl⟩
      · rintro ⟨-, rfl⟩
        rfl
  | some text =>
      rw [← refused_eq_false lazy]
      cases refused : (text.any (· ∈ fields.forbidden) || (!fields.quoted && text = fields.nullString)) with
      | true =>
          have refusal : textField table fields column (some text) = .error (fieldError table fields column) := by
            rw [textField, checkedTextField, if_pos refused]
            rfl
          rw [refusal]
          constructor
          · intro h
            cases h
          · rintro ⟨h, -⟩
            cases h
      | false =>
          have projected : textField table fields column (some text) = .ok (some (dialect.escaped text)) := by
            rw [textField, checkedTextField, if_neg (fun h => Bool.noConfusion (refused.symm.trans h)), ← written text]
            by_cases bare : fields.escape = []
            · rw [if_pos bare]
              exact if_pos bare
            · rw [if_neg bare]
              exact if_neg bare
          rw [projected, Except.ok.injEq]
          constructor
          · rintro rfl
            exact ⟨rfl, rfl⟩
          · rintro ⟨-, rfl⟩
            rfl

/-- A projected row is the row's texts, escaped. -/
theorem textRow_eq_ok {columns : List Text} {row written : List (Option Text)} (length : row.length = columns.length) :
    textRow table fields columns row = .ok written ↔ Writable dialect fields.nullString row ∧
      written = row.map (Option.map dialect.escaped) := by
  unfold textRow
  induction columns generalizing row written with
  | nil =>
      obtain rfl := List.length_eq_zero_iff.mp length
      rw [List.zip_nil_left, List.mapM_nil, pure_eq_ok]
      constructor
      · rintro rfl
        exact ⟨by simp [Writable], rfl⟩
      · rintro ⟨-, rfl⟩
        rfl
  | cons column columns ih =>
      cases row with
      | nil => cases length
      | cons value row =>
          have tail := fun written => @ih row written (by simpa using length)
          have split : Writable dialect fields.nullString (value :: row) ↔
              Writable dialect fields.nullString [value] ∧ Writable dialect fields.nullString row := by
            simp only [Writable, List.mem_cons, or_imp, forall_and, List.not_mem_nil, or_false]
            grind
          rw [split, List.zip_cons_cons, List.mapM_cons]
          simp only [bind_eq_ok, pure_eq_ok, textField_eq_ok lazy, tail, List.map_cons]
          grind

/-- The copy writes the lines of the rows. -/
theorem copyText_eq (rows : List (List (Option Text))) :
    copyText fields (rows.map fun row => row.map (Option.map dialect.escaped)) =
      writeText dialect fields.nullString '\n' rows := by
  have text : ∀ value : Option Text, (value.map dialect.escaped).getD fields.nullString =
      fieldText dialect fields.nullString value := by
    intro value
    cases value <;> rfl
  simp only [copyText, writeText, written, lazy.delimiter, List.flatMap_map, List.map_map, join, line, Function.comp_def,
    text]

/-- Rows the projection does not refuse are written escaped. -/
theorem textRows_eq_ok {columns : List Text} {rows written : List (List (Option Text))}
    (length : ∀ row ∈ rows, row.length = columns.length) :
    rows.mapM (textRow table fields columns) = .ok written ↔
      (∀ row ∈ rows, Writable dialect fields.nullString row) ∧
        written = rows.map fun row => row.map (Option.map dialect.escaped) := by
  induction rows generalizing written with
  | nil =>
      rw [List.mapM_nil, pure_eq_ok]
      constructor
      · rintro rfl
        exact ⟨by simp, rfl⟩
      · rintro ⟨-, rfl⟩
        rfl
  | cons row rows ih =>
      obtain ⟨here, later⟩ := List.forall_mem_cons.mp length
      rw [List.mapM_cons, List.forall_mem_cons, List.map_cons]
      simp only [bind_eq_ok, pure_eq_ok, textRow_eq_ok lazy here, ih later]
      grind

theorem opens_iff {c : Char} : dialect.opens c = true ↔ fields.escape = [c] ∧ isLineBreak c = false := by
  rw [opens, lazy.escape, lazy.breaks]
  cases dialect.escape <;> simp

/-- Without a delimiter in it the NULL string is a field to the reader as it is one of
its line. -/
theorem isOneField_iff {text : Text} (undelimited : dialect.separator ∉ text) :
    (isOneField fields.escape false text = true ↔ dialect.IsField text) ∧
      (isOneField fields.escape true text = true ↔ ∃ taken rest, text = taken :: rest ∧ dialect.IsField rest) := by
  induction text with
  | nil => simp [isOneField, IsField.nil]
  | cons c text ih =>
      simp only [List.mem_cons, not_or] at undelimited
      obtain ⟨plain, taken⟩ := ih undelimited.2
      constructor
      · rw [isOneField, Bool.and_eq_true, Bool.not_eq_true']
        have opened := @opens_iff _ _ _ lazy c
        cases opens : dialect.opens c with
        | true =>
            obtain ⟨same, stays⟩ := opened.mp opens
            rw [isField_escape_iff opens, ← taken, decide_eq_true same]
            exact and_iff_right stays
        | false =>
            rw [isField_plain_iff opens, ← plain, lazy.breaks]
            constructor
            · rintro ⟨stays, rest⟩
              have differs : fields.escape ≠ [c] := fun same => by simp [opened.mpr ⟨same, stays⟩] at opens
              rw [decide_eq_false differs] at rest
              exact ⟨stays, Ne.symm undelimited.1, rest⟩
            · rintro ⟨stays, -, rest⟩
              have differs : fields.escape ≠ [c] := fun same => by simp [opened.mpr ⟨same, stays⟩] at opens
              rw [decide_eq_false differs]
              exact ⟨stays, rest⟩
      · rw [isOneField, plain]
        simp

/-- The delimiter of a value is not in the NULL string, escaped or not. -/
theorem escaped_ne_nullString (text : Text) :
    dialect.escaped text ≠ fields.nullString ↔ doubledEscapes fields.escape text ≠ fields.nullString := by
  by_cases separated : dialect.separator ∈ text
  · have inEscaped : dialect.separator ∈ dialect.escaped text := by
      unfold Dialect.escaped
      cases dialect.escape with
      | none => exact separated
      | some e => exact List.mem_flatMap.mpr ⟨_, separated, by simp⟩
    have inDoubled : dialect.separator ∈ doubledEscapes fields.escape text := by
      refine List.mem_flatMap.mpr ⟨_, separated, ?_⟩
      split_ifs <;> simp
    constructor
    · exact fun _ same => lazy.undelimited (same ▸ inDoubled)
    · exact fun _ same => lazy.undelimited (same ▸ inEscaped)
  · have same : dialect.escaped text = doubledEscapes fields.escape text := by
      unfold Dialect.escaped doubledEscapes
      rw [lazy.escape]
      cases dialect.escape with
      | none => simp
      | some e =>
          refine List.flatMap_congr fun c member => ?_
          have differs : c ≠ dialect.separator := fun same => separated (same ▸ member)
          by_cases isEscape : c = e
          · simp [isEscape]
          · simp [differs, isEscape, Ne.symm isEscape]
    rw [same]

/-- What the reader needs of rows the projection does not refuse. -/
theorem readable_iff {columns : ℕ} {rows : List (List (Option Text))}
    (writable : ∀ row ∈ rows, Writable dialect fields.nullString row) :
    Readable dialect fields.nullString columns rows ↔ ReadableFields fields columns rows := by
  have escapes : ∀ row ∈ rows, ∀ text, some text ∈ row →
      ((dialect.separator ∈ text → ∃ c, dialect.opens c = true) ↔
        (contains text fields.delimiter = true → fields.escape.any isLineBreak = false)) := by
    intro row here text member
    rw [lazy.delimiter, contains_char]
    cases escape : dialect.escape with
    | none =>
        have bare := (writable row here text member).2.2 escape
        simp [bare]
    | some e => simp [opens_iff lazy, lazy.escape, escape]
  constructor
  · intro readable
    exact {
      missing := fun row here null => (isOneField_iff lazy lazy.undelimited).1.mpr (readable.missing row here null)
      escaped := fun row here text member => (escapes row here text member).mp (readable.escaped row here text member)
      distinct := fun row here text member =>
        (escaped_ne_nullString lazy text).mp (readable.distinct row here text member)
      visible := readable.visible }
  · intro readable
    exact {
      missing := fun row here null => (isOneField_iff lazy lazy.undelimited).1.mp (readable.missing row here null)
      escaped := fun row here text member => (escapes row here text member).mpr (readable.escaped row here text member)
      distinct := fun row here text member =>
        (escaped_ne_nullString lazy text).mpr (readable.distinct row here text member)
      visible := readable.visible }

end Rows

/-- The rows an INSERT writes to a LazySimpleSerDe table are read back exactly when they
are readable. -/
theorem textFields_readsBack_iff {columns : List Text} {rows written : List (List (Option Text))}
    (serde : table.getSerDe = .ok .lazySimple) (planned : planTextFields db table = .ok fields)
    (read : table.getCSVOptions db = .ok options) (positive : 0 < columns.length)
    (length : ∀ row ∈ rows, row.length = columns.length)
    (projected : rows.mapM (textRow table fields columns) = .ok written) :
    readTextFile options columns.length (copyText fields written) = some rows ↔
      ReadableFields fields columns.length rows := by
  obtain ⟨dialect, lazy⟩ := lazyFields_of_plan serde planned read
  obtain ⟨writable, rfl⟩ := (textRows_eq_ok lazy length).mp projected
  have breaks : dialect.isBreak '\n' = true := by rw [lazy.breaks]; decide
  rw [readTextFile, lazy.dialect, Option.map_some, Option.some.injEq, lazy.nullString, copyText_eq lazy,
    readText_writeText_iff breaks positive lazy.undelimited length writable, readable_iff lazy writable]

section Examples

/-- A LazySimpleSerDe table of commas and backslashes. -/
def notes : GlueTableInfo :=
  { name := "notes", schemaName := "main", serdeLibrary := "org.apache.hadoop.hive.serde2.lazy.LazySimpleSerDe"
    serdeParameters :=
      ((∅ : Parameters).insert "field.delim".toList ",".toList).insert "escape.delim".toList "\\".toList }

/-- A database no property of `notes` is a number to. -/
def noIntegers : DuckDB := ⟨fun _ => none⟩

def notesFields : TextFields :=
  { headerLines := 0, delimiter := ",", quote := [], copyEscape := [], nullString := "\\N", quoted := false
    escape := "\\", escapesDelimiter := true, forbidden := "\n\r"
    reason := "holds a line break or is the table's NULL string '\\N'" }

def notesOptions : HiveCSVOptions :=
  { delimiter := ",", quote := [], escape := "\\", skipLines := 0, nullString := "\\N", serdeFields := true
    nullForInvalidData := true, falseUnlessTrue := false, fieldEscape := [], epochFields := false }

theorem notes_planned : notes.getSerDe = .ok .lazySimple ∧ planTextFields noIntegers notes = .ok notesFields ∧
    notes.getCSVOptions noIntegers = .ok notesOptions := by
  decide +kernel

/-- A row of one empty string is a blank line. -/
theorem textFields_blankRow : ¬ ∀ (db : DuckDB) (table : GlueTableInfo) (fields : TextFields)
    (options : HiveCSVOptions) (columns : List Text) (rows written : List (List (Option Text))),
    table.getSerDe = .ok .lazySimple → planTextFields db table = .ok fields → table.getCSVOptions db = .ok options →
    0 < columns.length → (∀ row ∈ rows, row.length = columns.length) →
    rows.mapM (textRow table fields columns) = .ok written →
    readTextFile options columns.length (copyText fields written) = some rows := by
  intro always
  obtain ⟨serde, planned, read⟩ := notes_planned
  have lost := always noIntegers notes notesFields notesOptions ["note".toList] [[some []]] [[some []]] serde planned
    read (by decide) (by decide) (by decide +kernel)
  exact absurd lost (by decide +kernel)

theorem textFields_readsBack_notes :
    readTextFile notesOptions 2 (copyText notesFields [[some "a\\,b".toList, none], [some [], some "N".toList]]) =
      some [[some "a,b".toList, none], [some [], some "N".toList]] ↔
    ReadableFields notesFields 2 [[some "a,b".toList, none], [some [], some "N".toList]] := by
  obtain ⟨serde, planned, read⟩ := notes_planned
  exact @textFields_readsBack_iff _ _ _ _ ["note".toList, "more".toList] _ _ serde planned read (by decide) (by decide)
    (by decide +kernel)

end Examples

end LazySimple

end DuckGlue
