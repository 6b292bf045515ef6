import DuckGlue.Catalog.CreatedTable
import DuckGlue.Core.TextSerde

/-! # The csv dialect of a created table

CREATE TABLE stores the delimiter, quote and escape options as SerDe properties, which
`GetFieldDelimiter`, `GetQuoteCharacter` and `GetEscapeCharacter` read back. OpenCSVSerde
takes them as the characters they are. LazySimpleSerDe also reads numbers as byte codes.
-/

namespace DuckGlue

open StringUtil Fallible

namespace GlueSchemaEntry

/-- The options of a csv table without other options. -/
def isDialectOption (key : Text) : Bool :=
  ciEquals key "format" || ciEquals key "delimiter" || ciEquals key "quote" || ciEquals key "escape"

section Options

variable {bucketedTables : Bool} {result result' : GlueCreateTableOptions} {key : Text} {value : OptionValue}

/-- What one of these options makes of the ones before it. -/
inductive DialectOptionMade (result : GlueCreateTableOptions) (key : Text) (value : OptionValue) :
    GlueCreateTableOptions → Prop where
  | format (named : ciEquals key "format" = true) (format : HiveFileFormat) :
      DialectOptionMade result key value { result with format }
  | delimiter (named : ciEquals key "delimiter" = true) (single : size value.scalar.text = 1) :
      DialectOptionMade result key value { result with csvDelimiter := value.scalar.text }
  | quote (named : ciEquals key "quote" = true) (single : size value.scalar.text = 1) :
      DialectOptionMade result key value { result with csvQuote := value.scalar.text }
  | escape (named : ciEquals key "escape" = true) (single : size value.scalar.text = 1) :
      DialectOptionMade result key value { result with csvEscape := value.scalar.text }

theorem parseOption_dialect (dialect : isDialectOption key = true)
    (parsed : parseOption bucketedTables result (key, value) = .ok result') :
    DialectOptionMade result key value result' := by
  simp only [isDialectOption, Bool.or_eq_true] at dialect
  have other : ∀ {name : Text}, ciEquals key name = true → ∀ {unnamed : Text}, ciEquals name unnamed = false →
      ¬ ciEquals key unnamed = true := by
    intro name named unnamed differs
    rw [ciEquals_congr named, differs]
    decide
  unfold parseOption at parsed
  dsimp only at parsed
  rcases dialect with ((named | named) | named) | named
  · rw [if_neg (other named (by decide)), if_pos named] at parsed
    simp only [bind_eq_ok, pure_eq_ok] at parsed
    obtain ⟨given, _, rfl⟩ := parsed
    exact .format named given
  all_goals
    rw [if_neg (other named (by decide)), if_neg (other named (by decide)), if_neg (other named (by decide)),
      if_neg (other named (by decide)), if_pos (by simp only [named, Bool.or_true, Bool.true_or])] at parsed
    simp only [guard_throw_eq_ok, not_not] at parsed
    obtain ⟨single, parsed⟩ := parsed
  · rw [if_pos named] at parsed
    cases parsed
    exact .delimiter named single
  · rw [if_neg (other named (by decide)), if_pos named] at parsed
    cases parsed
    exact .quote named single
  · rw [if_neg (other named (by decide)), if_neg (other named (by decide))] at parsed
    cases parsed
    exact .escape named single

/-- A field that only the option of its name writes. -/
structure OwnField (name : Text) (field : GlueCreateTableOptions → Text) : Prop where
  written : ∀ {result key value result'}, DialectOptionMade result key value result' → ciEquals key name = true →
    field result' = value.scalar.text
  kept : ∀ {result key value result'}, DialectOptionMade result key value result' → ciEquals key name = false →
    field result' = field result

variable {options : List (Text × Option OptionValue)} {parsed : GlueCreateTableOptions} {name : Text}
  {field : GlueCreateTableOptions → Text}

/-- It holds the option's text, or else its default. -/
theorem OwnField.getD (own : OwnField name field) (distinct : options.Pairwise fun a b => ciEquals a.1 b.1 = false)
    (dialect : ∀ option ∈ options, isDialectOption option.1 = true)
    (parses : parseCreateTableOptions bucketedTables options = .ok parsed) :
    field parsed = (optionText options name).getD (field {}) := by
  simp only [parseCreateTableOptions, bind_eq_ok] at parses
  obtain ⟨evaluated, values, parses⟩ := parses
  rw [evaluateOptions_ok values] at distinct dialect ⊢
  rw [optionText_evaluated]
  clear values
  generalize ({} : GlueCreateTableOptions) = initial at parses ⊢
  induction evaluated generalizing initial with
  | nil =>
      cases parses
      rfl
  | cons option evaluated ih =>
      rw [List.map_cons, List.pairwise_cons] at distinct
      rw [List.map_cons, List.forall_mem_cons] at dialect
      rw [List.foldlM_cons, bind_eq_ok] at parses
      obtain ⟨next, first, rest⟩ := parses
      have made := parseOption_dialect dialect.1 first
      rw [ih dialect.2 distinct.2 next rest, List.find?_cons]
      cases same : ciEquals option.1 name with
      | true =>
          rw [find?_of_distinct (fun other member => distinct.1 _ (List.mem_map_of_mem member)) same]
          exact own.written made same
      | false =>
          rw [own.kept made same]

/-- The options are made one after another. -/
theorem made_of_parsed (dialect : ∀ option ∈ options, isDialectOption option.1 = true)
    (parses : parseCreateTableOptions bucketedTables options = .ok parsed) {option : Text × Option OptionValue}
    (member : option ∈ options) :
    ∃ value result result', option.2 = some value ∧ DialectOptionMade result option.1 value result' := by
  simp only [parseCreateTableOptions, bind_eq_ok] at parses
  obtain ⟨evaluated, values, parses⟩ := parses
  rw [evaluateOptions_ok values] at dialect member
  clear values
  generalize ({} : GlueCreateTableOptions) = initial at parses
  induction evaluated generalizing initial with
  | nil => cases member
  | cons first evaluated ih =>
      rw [List.map_cons, List.forall_mem_cons] at dialect
      rw [List.foldlM_cons, bind_eq_ok] at parses
      obtain ⟨next, here, rest⟩ := parses
      cases member with
      | head => exact ⟨first.2, initial, next, rfl, parseOption_dialect dialect.1 here⟩
      | tail _ later => exact ih later dialect.2 next rest

/-- A character is a single byte. -/
theorem size_optionText (dialect : ∀ option ∈ options, isDialectOption option.1 = true)
    (parses : parseCreateTableOptions bucketedTables options = .ok parsed) (notFormat : ciEquals name "format" = false)
    {text : Text} (given : optionText options name = some text) : size text = 1 := by
  obtain ⟨option, found, here⟩ := Option.bind_eq_some_iff.mp given
  obtain ⟨value, valued, rfl⟩ := Option.map_eq_some_iff.mp here
  have named : ciEquals option.1 name = true := by simpa only using List.find?_some found
  obtain ⟨made, result, result', same, step⟩ := made_of_parsed dialect parses (List.mem_of_find?_eq_some found)
  rw [valued] at same
  cases same
  cases step with
  | format isFormat =>
      rw [ciEquals_congr named, notFormat] at isFormat
      cases isFormat
  | delimiter _ single => exact single
  | quote _ single => exact single
  | escape _ single => exact single

/-- A field that none of these options writes. -/
theorem field_kept {β : Type} (field : GlueCreateTableOptions → β)
    (kept : ∀ {result key value result'}, DialectOptionMade result key value result' → field result' = field result)
    (dialect : ∀ option ∈ options, isDialectOption option.1 = true)
    (parses : parseCreateTableOptions bucketedTables options = .ok parsed) : field parsed = field {} := by
  simp only [parseCreateTableOptions, bind_eq_ok] at parses
  obtain ⟨evaluated, values, parses⟩ := parses
  rw [evaluateOptions_ok values] at dialect
  clear values
  generalize ({} : GlueCreateTableOptions) = initial at parses ⊢
  induction evaluated generalizing initial with
  | nil =>
      cases parses
      rfl
  | cons first evaluated ih =>
      rw [List.map_cons, List.forall_mem_cons] at dialect
      rw [List.foldlM_cons, bind_eq_ok] at parses
      obtain ⟨next, here, rest⟩ := parses
      exact (ih dialect.2 next rest).trans (kept (parseOption_dialect dialect.1 here))

end Options

/-- Whether a name is that of another option. -/
theorem not_named {key name other : Text} (named : ciEquals key other = true) (differs : ciEquals other name = false) :
    ¬ ciEquals key name = true := by
  rw [ciEquals_congr named, differs]
  decide

theorem csvDelimiter_own : OwnField "delimiter" (·.csvDelimiter) where
  written made named := by
    cases made with
    | delimiter => rfl
    | format other | quote other | escape other => exact absurd named (not_named other (by decide))
  kept made differs := by
    cases made with
    | delimiter named =>
        rw [named] at differs
        cases differs
    | format | quote | escape => rfl

theorem csvQuote_own : OwnField "quote" (·.csvQuote) where
  written made named := by
    cases made with
    | quote => rfl
    | format other | delimiter other | escape other => exact absurd named (not_named other (by decide))
  kept made differs := by
    cases made with
    | quote named =>
        rw [named] at differs
        cases differs
    | format | delimiter | escape => rfl

theorem csvEscape_own : OwnField "escape" (·.csvEscape) where
  written made named := by
    cases made with
    | escape => rfl
    | format other | delimiter other | quote other => exact absurd named (not_named other (by decide))
  kept made differs := by
    cases made with
    | escape named =>
        rw [named] at differs
        cases differs
    | format | delimiter | quote => rfl

end GlueSchemaEntry

open GlueSchemaEntry

/-- The characters a csv table is created with: without quote and escape option it has
neither, else the escape character is the quote character unless it is given. -/
structure CSVDialect where
  delimiter : Text
  quote : Text
  escape : Text
  deriving Repr, DecidableEq

namespace CSVDialect

/-- What the options ask for, with their defaults. -/
def ofOptions (options : List (Text × Option OptionValue)) : CSVDialect :=
  let quote := (optionText options "quote").getD "\""
  let quoted := (optionText options "quote").isSome || (optionText options "escape").isSome
  { delimiter := (optionText options "delimiter").getD ","
    quote := if quoted then quote else []
    escape := if quoted then (optionText options "escape").getD quote else [] }

/-- What a table is read with, and that it can be. -/
structure ReadBack (db : DuckDB) (stored : GlueTableInfo) (dialect : CSVDialect) : Prop where
  delimiter : stored.getFieldDelimiter db = .ok dialect.delimiter
  quote : stored.getQuoteCharacter = .ok dialect.quote
  escape : stored.getEscapeCharacter = .ok dialect.escape
  supported : stored.checkTextSerdeSupported db .csv = .ok ()

/-- A delimiter that is neither a byte code, nor a byte DuckDB can not split at, nor a
character of the NULL string `\N`. -/
def isPlainDelimiter (c : Char) : Bool :=
  !c.isDigit && c ≠ '\x00' && c ≠ '\n' && c ≠ '\r' && c ≠ '\\' && c ≠ 'N'

/-- How DuckDB casts a single byte to BIGINT. -/
def CastsDigits (db : DuckDB) : Prop :=
  ∀ c : Char, c.toNat < 128 → db.tryCastBigint [c] = if c.isDigit then some (c.toNat - 48 : Int) else none

section Characters

variable {db : DuckDB} {table : GlueTableInfo} {c : Char} {text : Text}

theorem utf8Size_eq_one_iff : c.utf8Size = 1 ↔ c.toNat < 128 := by
  rw [Char.utf8Size_eq_one_iff, UInt32.le_iff_toNat_le]
  exact Nat.lt_succ_iff.symm

theorem size_singleton : size [c] = c.utf8Size := by
  simp [size]

theorem eq_single_of_size (single : size text = 1) : ∃ c : Char, c.toNat < 128 ∧ text = [c] := by
  cases text with
  | nil => cases single
  | cons c text =>
      cases text with
      | nil => exact ⟨c, utf8Size_eq_one_iff.mp (size_singleton.symm.trans single), rfl⟩
      | cons d text =>
          have first := Char.utf8Size_pos c
          have second := Char.utf8Size_pos d
          simp only [size, List.map_cons, List.sum_cons] at single
          omega

/-- What is read of a byte that is no digit is the byte, if it can be split at. -/
theorem lazySimpleSeparator_character (casts : CastsDigits db) (ascii : c.toNat < 128) (character : c.isDigit = false) :
    table.lazySimpleSeparator db [c] = .ok [c] ↔ c ≠ '\x00' ∧ c ≠ '\n' ∧ c ≠ '\r' := by
  have code : tryParseInteger db [c] (-128) 127 = none := by
    unfold tryParseInteger
    rw [if_neg (List.cons_ne_nil _ _), casts c ascii, character]
    rfl
  have byte : ∀ d : Char, c ≠ d ↔ c.toNat ≠ d.toNat := fun d => not_congr Char.toNat_inj.symm
  unfold GlueTableInfo.lazySimpleSeparator
  simp only [code, byte, Char.ofNat_toNat]
  have refused : (c.toNat = 0 ∨ c.toNat = 10 ∨ c.toNat = 13 ∨ 0x80 ≤ c.toNat) ↔
      ¬ (c.toNat ≠ '\x00'.toNat ∧ c.toNat ≠ '\n'.toNat ∧ c.toNat ≠ '\r'.toNat) := by
    change _ ↔ ¬ (c.toNat ≠ 0 ∧ c.toNat ≠ 10 ∧ c.toNat ≠ 13)
    omega
  split_ifs with stop
  · exact iff_of_false (by simp) (refused.mp stop)
  · exact iff_of_true rfl (not_not.mp (refused.not.mp stop))

/-- What is read of a digit is the byte of that code. -/
theorem lazySimpleSeparator_digit (casts : CastsDigits db) (ascii : c.toNat < 128) (digit : c.isDigit = true) :
    table.lazySimpleSeparator db [c] ≠ .ok [c] := by
  have range : 48 ≤ c.toNat ∧ c.toNat ≤ 57 := Char.isDigit_iff_toNat.mp digit
  have code : tryParseInteger db [c] (-128) 127 = some (c.toNat - 48 : Int) := by
    unfold tryParseInteger
    rw [if_neg (List.cons_ne_nil _ _), casts c ascii, digit, if_pos rfl, Option.filter_some, if_pos]
    simp only [Bool.and_eq_true, decide_eq_true_eq]
    omega
  have byte : ((c.toNat - 48 : Int) % 256).toNat = c.toNat - 48 := by omega
  unfold GlueTableInfo.lazySimpleSeparator
  simp only [code, byte]
  split_ifs with stop
  · simp
  · intro same
    have equal : Char.ofNat (c.toNat - 48) = c := by simpa using same
    have codes : ∀ n < 10, (Char.ofNat n).toNat = n := by decide
    have small := codes (c.toNat - 48) (by omega)
    rw [equal] at small
    omega

end Characters

section Stored

variable {db : DuckDB} {bucketedTables : Bool} {options : List (Text × Option OptionValue)}
  {parsed : GlueCreateTableOptions} {stored : GlueTableInfo}

/-- What the table has of its options. -/
structure StoredAs (parsed : GlueCreateTableOptions) (stored : GlueTableInfo) : Prop where
  library : stored.serdeLibrary = (csvSerDe parsed).1
  serdeParameters : stored.serdeParameters = (csvSerDe parsed).2
  parameters : ∀ key, key ∉ GlueAPI.createdKeys → stored.parameters.lookup key = none

/-- No table parameter overrides the SerDe's. -/
theorem StoredAs.tryGetProperty (made : StoredAs parsed stored) {key : Text} (notCreated : key ∉ GlueAPI.createdKeys) :
    stored.tryGetProperty key = (csvSerDe parsed).2.lookup key := by
  unfold GlueTableInfo.tryGetProperty
  rw [made.parameters key notCreated, made.serdeParameters]
  rfl

theorem StoredAs.noCount (made : StoredAs parsed stored) {key : Text} (notCreated : key ∉ GlueAPI.createdKeys)
    (missing : (csvSerDe parsed).2.lookup key = none) : stored.getCountProperty db key = .ok 0 := by
  unfold GlueTableInfo.getCountProperty
  rw [made.tryGetProperty notCreated, missing]

theorem StoredAs.lazySimple (made : StoredAs parsed stored) (unquoted : parsed.csvQuote = [] ∧ parsed.csvEscape = []) :
    stored.getSerDe = .ok .lazySimple := by
  have decided : ({ serdeLibrary := "org.apache.hadoop.hive.serde2.lazy.LazySimpleSerDe" } : GlueTableInfo).getSerDe =
      .ok .lazySimple := by rfl
  apply GlueTableInfo.getSerDe_congr _ decided
  rw [made.library, csvSerDe, if_pos (by simp [unquoted])]

theorem StoredAs.openCSV (made : StoredAs parsed stored) (quoted : ¬ (parsed.csvQuote = [] ∧ parsed.csvEscape = [])) :
    stored.getSerDe = .ok .openCsv := by
  have decided : ({ serdeLibrary := "org.apache.hadoop.hive.serde2.OpenCSVSerde" } : GlueTableInfo).getSerDe =
      .ok .openCsv := by rfl
  apply GlueTableInfo.getSerDe_congr _ decided
  rw [made.library, csvSerDe, if_neg (by simpa using quoted)]

/-- The dialect of the options as they were parsed. -/
def ofParsed (parsed : GlueCreateTableOptions) : CSVDialect :=
  let quote := if parsed.csvQuote = [] then "\"".toList else parsed.csvQuote
  if parsed.csvQuote = [] ∧ parsed.csvEscape = [] then ⟨parsed.csvDelimiter, [], []⟩
  else ⟨parsed.csvDelimiter, quote, if parsed.csvEscape = [] then quote else parsed.csvEscape⟩

theorem getOpenCSVCharacter_character {table : GlueTableInfo} {key fallback : Text} {c : Char}
    (found : table.tryGetProperty key = some [c]) : table.getOpenCSVCharacter key fallback = .ok [c] := by
  unfold GlueTableInfo.getOpenCSVCharacter
  rw [found]
  rfl

/-- OpenCSVSerde takes each character as it is. -/
theorem StoredAs.readBack_openCSV (made : StoredAs parsed stored)
    (quoted : ¬ (parsed.csvQuote = [] ∧ parsed.csvEscape = [])) (delimiter : size parsed.csvDelimiter = 1)
    (quote : parsed.csvQuote ≠ [] → size parsed.csvQuote = 1) (escape : parsed.csvEscape ≠ [] → size parsed.csvEscape = 1)
    (flat : ∀ column ∈ stored.columns, column.type.contains '<' = false) : ReadBack db stored (ofParsed parsed) := by
  have serde := made.openCSV quoted
  obtain ⟨d, _, delimited⟩ := eq_single_of_size delimiter
  have isQuote : ∃ q : Char, q.toNat < 128 ∧ (if parsed.csvQuote = [] then "\"".toList else parsed.csvQuote) = [q] := by
    split_ifs with none
    · exact ⟨'"', by decide, rfl⟩
    · exact eq_single_of_size (quote none)
  obtain ⟨q, quoteByte, isQuote⟩ := isQuote
  have isEscape : ∃ e : Char, e.toNat < 128 ∧ (if parsed.csvEscape = [] then [q] else parsed.csvEscape) = [e] := by
    split_ifs with none
    · exact ⟨q, quoteByte, rfl⟩
    · exact eq_single_of_size (escape none)
  obtain ⟨e, escapeByte, isEscape⟩ := isEscape
  have dialect : ofParsed parsed = ⟨[d], [q], [e]⟩ := by
    unfold ofParsed
    rw [if_neg quoted, isQuote, isEscape, delimited]
  have parameters : (csvSerDe parsed).2 =
      (((∅ : Parameters).insert "separatorChar".toList [d]).insert "quoteChar".toList [q]).insert
        "escapeChar".toList [e] := by
    unfold csvSerDe
    rw [if_neg (by simpa using quoted)]
    dsimp only
    rw [isQuote, isEscape, delimited]
  have separatorChar : stored.tryGetProperty "separatorChar" = some [d] := by
    rw [made.tryGetProperty (by decide), parameters]
    rfl
  have quoteChar : stored.tryGetProperty "quoteChar" = some [q] := by
    rw [made.tryGetProperty (by decide), parameters]
    rfl
  have escapeChar : stored.tryGetProperty "escapeChar" = some [e] := by
    rw [made.tryGetProperty (by decide), parameters]
    rfl
  have readQuote : stored.getQuoteCharacter = .ok [q] := by
    simp only [GlueTableInfo.getQuoteCharacter, serde]
    exact getOpenCSVCharacter_character quoteChar
  have readEscape : stored.getEscapeCharacter = .ok [e] := by
    simp only [GlueTableInfo.getEscapeCharacter, serde, readQuote]
    exact getOpenCSVCharacter_character escapeChar
  rw [dialect]
  constructor
  · simp only [GlueTableInfo.getFieldDelimiter, serde]
    exact getOpenCSVCharacter_character separatorChar
  · exact readQuote
  · exact readEscape
  · apply GlueTableInfo.checkTextSerdeSupported_csv.mpr
    refine ⟨made.noCount (by decide) (by rw [parameters]; rfl), flat, .openCsv, serde, ?_⟩
    rw [if_pos rfl]
    refine ⟨[q], [e], readQuote, readEscape, ?_⟩
    rw [size_singleton, size_singleton, utf8Size_eq_one_iff.mpr quoteByte, utf8Size_eq_one_iff.mpr escapeByte]
    exact ⟨le_rfl, le_rfl⟩

theorem delimiter_infix_nullFormat {c : Char} : contains "\\N" [c] = true ↔ c = '\\' ∨ c = 'N' := by
  rw [contains_iff, List.singleton_infix_iff]
  simp

/-- LazySimpleSerDe reads the delimiter back when it is a plain one. -/
theorem StoredAs.readBack_lazySimple (made : StoredAs parsed stored) (casts : CastsDigits db)
    (unquoted : parsed.csvQuote = [] ∧ parsed.csvEscape = []) {d : Char} (ascii : d.toNat < 128)
    (delimiter : parsed.csvDelimiter = [d]) (flat : ∀ column ∈ stored.columns, column.type.contains '<' = false) :
    ReadBack db stored (ofParsed parsed) ↔ isPlainDelimiter d = true := by
  have serde := made.lazySimple unquoted
  have dialect : ofParsed parsed = ⟨[d], [], []⟩ := by
    unfold ofParsed
    rw [if_pos unquoted, delimiter]
  have parameters : (csvSerDe parsed).2 =
      ((∅ : Parameters).insert "field.delim".toList [d]).insert "serialization.format".toList [d] := by
    unfold csvSerDe
    rw [if_pos (by simpa using unquoted), delimiter]
  have missing : ∀ key : Text, key ∉ GlueAPI.createdKeys → key ≠ "field.delim".toList →
      key ≠ "serialization.format".toList → stored.tryGetProperty key = none := by
    intro key notCreated notDelimiter notFormat
    rw [made.tryGetProperty notCreated, parameters, AList.lookup_insert_ne notFormat, AList.lookup_insert_ne notDelimiter]
    rfl
  have fieldDelim : stored.tryGetProperty "field.delim" = some [d] := by
    rw [made.tryGetProperty (by decide), parameters]
    rfl
  have separator : stored.getFieldDelimiter db = stored.lazySimpleSeparator db [d] := by
    simp only [GlueTableInfo.getFieldDelimiter, serde, fieldDelim]
    rfl
  have quote : stored.getQuoteCharacter = .ok [] := by
    simp only [GlueTableInfo.getQuoteCharacter, serde]
    rfl
  have escape : stored.getEscapeCharacter = .ok [] := by
    simp only [GlueTableInfo.getEscapeCharacter, serde, missing "escape.delim" (by decide) (by decide) (by decide)]
    rfl
  have nullFormat : stored.getNullFormat = .ok "\\N".toList := by
    simp only [GlueTableInfo.getNullFormat, serde,
      missing "serialization.null.format" (by decide) (by decide) (by decide)]
    rfl
  have unset : ∀ key value : Text, key ∉ GlueAPI.createdKeys → key ≠ "field.delim".toList →
      key ≠ "serialization.format".toList → ¬ stored.propertyIs key value = true := by
    intro key value notCreated notDelimiter notFormat
    unfold GlueTableInfo.propertyIs
    rw [missing key notCreated notDelimiter notFormat]
    exact Bool.false_ne_true
  rw [dialect]
  constructor
  · intro readBack
    have read := readBack.delimiter
    rw [separator] at read
    have character : d.isDigit = false := by
      cases digit : d.isDigit with
      | false => rfl
      | true => exact absurd read (lazySimpleSeparator_digit casts ascii digit)
    obtain ⟨notNul, notLineFeed, notReturn⟩ := (lazySimpleSeparator_character casts ascii character).mp read
    obtain ⟨_, _, serde', known, settings⟩ := GlueTableInfo.checkTextSerdeSupported_csv.mp readBack.supported
    rw [serde] at known
    cases known
    rw [if_neg (by decide)] at settings
    obtain ⟨escape', delimiter', nullFormat', settings⟩ := settings
    have sameDelimiter := settings.delimited
    rw [separator, read] at sameDelimiter
    cases sameDelimiter
    have sameNull := settings.nulls
    rw [nullFormat] at sameNull
    cases sameNull
    have undelimited := settings.undelimited
    rw [delimiter_infix_nullFormat, not_or] at undelimited
    simp [isPlainDelimiter, character, notNul, notLineFeed, notReturn, undelimited]
  · intro plain
    simp only [isPlainDelimiter, Bool.and_eq_true, Bool.not_eq_true', decide_eq_true_eq, ne_eq] at plain
    obtain ⟨⟨⟨⟨⟨character, notNul⟩, notLineFeed⟩, notReturn⟩, notBackslash⟩, notN⟩ := plain
    have read : stored.getFieldDelimiter db = .ok [d] := by
      rw [separator]
      exact (lazySimpleSeparator_character casts ascii character).mpr ⟨notNul, notLineFeed, notReturn⟩
    refine ⟨read, quote, escape, GlueTableInfo.checkTextSerdeSupported_csv.mpr ?_⟩
    refine ⟨?_, flat, .lazySimple, serde, ?_⟩
    · unfold GlueTableInfo.getCountProperty
      rw [missing "skip.footer.line.count" (by decide) (by decide) (by decide)]
    · rw [if_neg (by decide)]
      refine ⟨[], [d], "\\N".toList, ?_⟩
      constructor
      · exact escape
      · decide
      · exact read
      · exact List.ne_cons_self
      · exact unset _ _ (by decide) (by decide) (by decide)
      · intro value found
        rw [missing "serialization.encoding" (by decide) (by decide) (by decide)] at found
        cases found
      · exact unset _ _ (by decide) (by decide) (by decide)
      · exact nullFormat
      · rw [delimiter_infix_nullFormat, not_or]
        exact ⟨notBackslash, notN⟩

theorem ofParsed_delimiter : (ofParsed parsed).delimiter = parsed.csvDelimiter := by
  unfold ofParsed
  dsimp only
  split_ifs <;> rfl

theorem getD_eq_nil {text : Option Text} (given : text ≠ some []) : text.getD [] = [] ↔ text = none := by
  cases text with
  | none => simp
  | some text =>
      have some : text ≠ [] := by
        rintro rfl
        exact given rfl
      simp [some]

/-- The dialect parsed is the one asked for. -/
theorem ofParsed_eq (delimiter : parsed.csvDelimiter = (optionText options "delimiter").getD ",")
    (quote : parsed.csvQuote = (optionText options "quote").getD [])
    (escape : parsed.csvEscape = (optionText options "escape").getD [])
    (given : ∀ name ∈ [("quote" : Text), "escape"], optionText options name ≠ some []) :
    ofParsed parsed = ofOptions options := by
  have quoteGiven := given "quote" (by decide)
  have escapeGiven := given "escape" (by decide)
  unfold ofParsed ofOptions
  rw [delimiter, quote, escape]
  cases isQuote : optionText options "quote" with
  | none =>
      cases isEscape : optionText options "escape" with
      | none => rfl
      | some e =>
          have some : e ≠ [] := by
            rintro rfl
            exact escapeGiven isEscape
          simp [some]
  | some q =>
      have some : q ≠ [] := by
        rintro rfl
        exact quoteGiven isQuote
      cases isEscape : optionText options "escape" with
      | none => simp [some]
      | some e =>
          have some' : e ≠ [] := by
            rintro rfl
            exact escapeGiven isEscape
          simp [some, some']

end Stored

/-- A csv table created with these options only is read with the characters they ask for
just when OpenCSVSerde stores them or the delimiter is a plain one. -/
theorem createTable_readBack_iff {db : DuckDB} (casts : CastsDigits db) {typeName : LogicalType → Text}
    {bucketedTables : Bool} {schemaName versionId : Text} {createTimeMs : Int} {tableLocation : Except Exception Text}
    {base : CreateTableInfo} {planned stored : GlueTableInfo}
    (distinct : base.options.Pairwise fun a b => ciEquals a.1 b.1 = false)
    (dialect : ∀ option ∈ base.options, isDialectOption option.1 = true)
    (built : buildTableInfo typeName bucketedTables schemaName tableLocation base = .ok planned)
    (csv : planned.fileFormat = .csv)
    (created : GlueAPI.createHiveTable planned versionId createTimeMs = .ok stored)
    (flat : ∀ column ∈ stored.columns, column.type.contains '<' = false) :
    ReadBack db stored (ofOptions base.options) ↔
      (optionText base.options "quote").isSome ∨ (optionText base.options "escape").isSome ∨
        (ofOptions base.options).delimiter.all isPlainDelimiter = true := by
  obtain ⟨parsed, options, partitionColumns, plan⟩ := buildTableInfo_ok typeName built
  have unbucketed : parsed.bucketColumns = [] := by
    apply field_kept (·.bucketColumns) _ dialect plan.parses
    intro result key value result' made
    cases made <;> rfl
  have noParameters : parsed.parameters = ∅ := by
    apply field_kept (·.parameters) _ dialect plan.parses
    intro result key value result' made
    cases made <;> rfl
  have same : options = parsed := by
    have bucketed := plan.bucketed
    unfold resolveBucketing at bucketed
    rw [if_pos unbucketed] at bucketed
    simp only [guard_throw_eq_ok, pure_eq_ok] at bucketed
    exact bucketed.2.symm
  subst same
  have made := GlueAPI.createHiveTable_ok created
  have isCsv : options.format = .csv := by
    rw [plan.table] at csv
    exact csv
  have storage := made.storage
  have stored : StoredAs options stored := by
    unfold GlueAPI.storageOf at storage
    rw [csv, plan.table] at storage
    simp only [plannedTable, isCsv, if_true, Prod.mk.injEq] at storage
    refine ⟨storage.1, storage.2.1, ?_⟩
    intro key notCreated
    rw [GlueAPI.lookup_createdParameters made.parameters notCreated, plan.table]
    change options.parameters.lookup key = none
    rw [noParameters]
    rfl
  have delimiter := csvDelimiter_own.getD distinct dialect plan.parses
  have quote := csvQuote_own.getD distinct dialect plan.parses
  have escape := csvEscape_own.getD distinct dialect plan.parses
  have single : ∀ {name : Text}, ciEquals name "format" = false → ∀ {text}, optionText base.options name = some text →
      size text = 1 := fun notFormat _ given => size_optionText dialect plan.parses notFormat given
  have given : ∀ name ∈ [("quote" : Text), "escape"], optionText base.options name ≠ some [] := by
    intro name member none
    have notFormat : ∀ name ∈ [("quote" : Text), "escape"], ciEquals name "format" = false := by decide
    cases single (notFormat name member) none
  have oneDelimiter : size options.csvDelimiter = 1 := by
    rw [delimiter]
    cases isGiven : optionText base.options "delimiter" with
    | none => rfl
    | some text => exact single (by decide) isGiven
  rw [← ofParsed_eq delimiter quote escape given]
  have noQuote : options.csvQuote = [] ↔ optionText base.options "quote" = none := by
    rw [quote, getD_eq_nil (given _ (by decide))]
  have noEscape : options.csvEscape = [] ↔ optionText base.options "escape" = none := by
    rw [escape, getD_eq_nil (given _ (by decide))]
  by_cases unquoted : options.csvQuote = [] ∧ options.csvEscape = []
  · obtain ⟨d, ascii, isDelimiter⟩ := eq_single_of_size oneDelimiter
    rw [stored.readBack_lazySimple casts unquoted ascii isDelimiter flat, ofParsed_delimiter, isDelimiter,
      noQuote.mp unquoted.1, noEscape.mp unquoted.2]
    simp
  · apply iff_of_true
    · apply stored.readBack_openCSV unquoted oneDelimiter _ _ flat
      · intro some
        obtain ⟨text, isGiven⟩ := Option.ne_none_iff_exists'.mp (noQuote.not.mp some)
        rw [quote, isGiven]
        exact single (by decide) isGiven
      · intro some
        obtain ⟨text, isGiven⟩ := Option.ne_none_iff_exists'.mp (noEscape.not.mp some)
        rw [escape, isGiven]
        exact single (by decide) isGiven
    · rw [noQuote, noEscape, not_and_or] at unquoted
      rcases unquoted with quoteGiven | escapeGiven
      · exact .inl (Option.isSome_iff_ne_none.mpr quoteGiven)
      · exact .inr (.inl (Option.isSome_iff_ne_none.mpr escapeGiven))

section Examples

/-- A cast of decimal digits. -/
def castingDigits : DuckDB where
  tryCastBigint text :=
    if text ≠ [] ∧ text.all Char.isDigit = true then some (text.foldl (fun number c => number * 10 + (c.toNat - 48 : Int)) 0)
    else none

theorem castingDigits_casts : CastsDigits castingDigits := by
  intro c _
  simp [castingDigits]

/-- `CREATE TABLE events (id INTEGER) WITH (format = 'csv', delimiter = ...)` -/
def delimitedTable (delimiter : Text) : CreateTableInfo where
  name := "events"
  columns := ⟨[{ name := "id", type := .integer }], by decide⟩
  options := [("format", some { scalar := ColumnSet.textOption "csv" }),
    ("delimiter", some { scalar := ColumnSet.textOption delimiter })]

/-- A pipe is read back as it is. -/
theorem createTable_readBack_pipe :
    ∃ planned stored : GlueTableInfo,
      buildTableInfo (fun _ => []) false "db" (.ok "s3://bucket/events") (delimitedTable "|") = .ok planned ∧
        GlueAPI.createHiveTable planned "0" 0 = .ok stored ∧
        (ReadBack castingDigits stored (ofOptions (delimitedTable "|").options) ↔
          (optionText (delimitedTable "|").options "quote").isSome ∨
            (optionText (delimitedTable "|").options "escape").isSome ∨
              (ofOptions (delimitedTable "|").options).delimiter.all isPlainDelimiter = true) :=
  ⟨_, _, rfl, rfl, createTable_readBack_iff castingDigits_casts (by decide) (by decide)
    (by rfl : buildTableInfo (fun _ => []) false "db" (.ok "s3://bucket/events") (delimitedTable "|") = .ok _) rfl rfl
    (by decide)⟩

/-- A digit is stored as it is and read as the byte of that code. -/
theorem createTable_digitDelimiter :
    ∃ planned stored : GlueTableInfo,
      buildTableInfo (fun _ => []) false "db" (.ok "s3://bucket/events") (delimitedTable "1") = .ok planned ∧
        GlueAPI.createHiveTable planned "0" 0 = .ok stored ∧
        stored.getFieldDelimiter castingDigits = .ok ['\x01'] ∧
        ¬ ReadBack castingDigits stored (ofOptions (delimitedTable "1").options) := by
  refine ⟨_, _, rfl, rfl, rfl, ?_⟩
  intro readBack
  have read := readBack.delimiter
  revert read
  decide

end Examples

end CSVDialect

end DuckGlue
