import DuckGlue.Lib.RegularExpression
import DuckGlue.Planning.TextFields

/-! # Fields escaped with a backslash

OpenCSVSerde drops a backslash in a field of a table without escapeChar, unless it stands
before another one or before the quote character. `PlanWrite` doubles every backslash,
the copy quotes the field, `read_csv` takes the quotes off again and a regular expression
drops the backslashes.
-/

namespace DuckGlue

open StringUtil DuckGlue.RegularExpression GlueHiveInsert Fallible

/-- `FieldEscapePattern` -/
def HiveCSVOptions.fieldEscapePattern (options : HiveCSVOptions) : Text :=
  quoteMeta options.fieldEscape ++ "([" ++ quoteMeta options.fieldEscape ++ quoteMeta options.quote ++ "])?"

/-- `regexp_replace(text, pattern, '\1', 'g')`, or nothing for a pattern that is not read. -/
def regexpReplace (text pattern : Text) : Option Text :=
  (RegularExpression.read pattern).map fun regex => regex.replaceByGroup text

/-- `UnescapeField`: only a field that holds the escape character goes through
`regexp_replace`. -/
def HiveCSVOptions.unescapeField (options : HiveCSVOptions) (text : Text) : Option Text :=
  if options.fieldEscape = [] then some text
  else if contains text options.fieldEscape then regexpReplace text options.fieldEscapePattern
  else some text

/-- A field the copy writes in quotes, each quote in it twice. -/
def quotedField (quote : Char) (text : Text) : Text :=
  quote :: text.flatMap (fun c => if c = quote then [quote, quote] else [c]) ++ [quote]

/-- What is left of a quoted field after its first quote. -/
def unquoteRest (quote : Char) : Text → Option Text
  | [] => none
  | c :: text =>
      if c = quote then
        match text with
        | [] => some []
        | d :: text => if d = quote then (unquoteRest quote text).map (quote :: ·) else none
      else (unquoteRest quote text).map (c :: ·)

/-- The text of a quoted field, a doubled quote being one. -/
def unquotedField (quote : Char) : Text → Option Text
  | [] => none
  | c :: text => if c = quote then unquoteRest quote text else none

theorem unquoteRest_plain {quote c : Char} {text : Text} (differs : c ≠ quote) :
    unquoteRest quote (c :: text) = (unquoteRest quote text).map (c :: ·) := by
  rw [unquoteRest.eq_def]
  dsimp only
  rw [if_neg differs]

theorem unquotedField_quotedField (quote : Char) (text : Text) :
    unquotedField quote (quotedField quote text) = some text := by
  unfold unquotedField quotedField
  dsimp only [List.cons_append]
  rw [if_pos rfl]
  induction text with
  | nil => simp [unquoteRest]
  | cons c text ih =>
      rw [List.flatMap_cons, List.append_assoc]
      by_cases isQuote : c = quote
      · rw [if_pos isQuote]
        simp [unquoteRest, ih, isQuote]
      · rw [if_neg isQuote, List.singleton_append, unquoteRest_plain isQuote, ih]
        rfl

/-- From left to right, each escape character that is not the second of a pair is dropped,
the escape or quote character after it stays, and so does everything else. -/
inductive Unescapes (escape quote : Char) : Text → Text → Prop where
  | nil : Unescapes escape quote [] []
  | pair {c : Char} {text read : Text} (special : c = escape ∨ c = quote) (rest : Unescapes escape quote text read) :
      Unescapes escape quote (escape :: c :: text) (c :: read)
  | alone {text read : Text} (before : ∀ c ∈ text.head?, c ≠ escape ∧ c ≠ quote) (rest : Unescapes escape quote text read) :
      Unescapes escape quote (escape :: text) read
  | plain {c : Char} {text read : Text} (differs : c ≠ escape) (rest : Unescapes escape quote text read) :
      Unescapes escape quote (c :: text) (c :: read)

namespace Unescapes

variable {escape quote : Char} {text read : Text}

/-- The expression of `FieldEscapePattern`. -/
def expression (escape quote : Char) : Regex Char :=
  .seq (.oneOf [escape]) (.optional (.group (.oneOf [escape, quote])))

theorem first_pair {c : Char} (special : c = escape ∨ c = quote) :
    (expression escape quote).first (escape :: c :: text) = some ([c], text) := by
  simp [expression, Regex.first, Regex.matchesAt, special]

theorem first_alone (before : ∀ c ∈ text.head?, c ≠ escape ∧ c ≠ quote) :
    (expression escape quote).first (escape :: text) = some ([], text) := by
  cases text with
  | nil => simp [expression, Regex.first, Regex.matchesAt]
  | cons c text =>
      have plain := before c rfl
      simp [expression, Regex.first, Regex.matchesAt, plain]

theorem first_plain {c : Char} (differs : c ≠ escape) : (expression escape quote).first (c :: text) = none := by
  simp [expression, Regex.first, Regex.matchesAt, differs]

/-- The replacement is what the characters say. -/
theorem replace_eq (unescapes : Unescapes escape quote text read) :
    (expression escape quote).replaceByGroup text = read := by
  induction unescapes with
  | nil => rfl
  | @pair c _ _ special _ ih => exact (Regex.replaceByGroup_match [c] (first_pair special)).trans (by rw [ih]; rfl)
  | alone before _ ih => exact (Regex.replaceByGroup_match [] (first_alone before)).trans ih
  | plain differs _ ih => rw [Regex.replaceByGroup_none (first_plain differs), ih]

/-- Every text is read in some way. -/
theorem exists_read (text : Text) : ∃ read, Unescapes escape quote text read := by
  induction h : text.length using Nat.strong_induction_on generalizing text with
  | h n ih =>
    subst h
    cases text with
    | nil => exact ⟨[], .nil⟩
    | cons c text =>
        obtain ⟨later, rest⟩ := ih text.length (Nat.lt_succ_self _) text rfl
        by_cases isEscape : c = escape
        · subst isEscape
          by_cases before : ∀ d ∈ text.head?, d ≠ c ∧ d ≠ quote
          · exact ⟨later, .alone before rest⟩
          · cases text with
            | nil => exact absurd (by simp) before
            | cons d text =>
                obtain ⟨read, after⟩ := ih text.length (by simp only [List.length_cons]; omega) text rfl
                have special : d = c ∨ d = quote := by
                  by_contra plain
                  rw [not_or] at plain
                  exact before (by simpa using plain)
                exact ⟨d :: read, .pair special after⟩
        · exact ⟨c :: later, .plain isEscape rest⟩

/-- A text with every escape character doubled is read as it was. -/
theorem doubled (text : Text) :
    Unescapes escape quote (text.flatMap fun c => if c = escape then [escape, escape] else [c]) text := by
  induction text with
  | nil => exact .nil
  | cons c text ih =>
      rw [List.flatMap_cons]
      by_cases isEscape : c = escape
      · rw [if_pos isEscape, isEscape]
        exact .pair (.inl rfl) ih
      · rw [if_neg isEscape]
        exact .plain isEscape ih

end Unescapes

/-- The pattern is read as that expression. -/
theorem read_fieldEscapePattern {options : HiveCSVOptions} {escape quote : Char} (escapes : options.fieldEscape = [escape])
    (quotes : options.quote = [quote]) :
    RegularExpression.read options.fieldEscapePattern = some (Unescapes.expression escape quote) := by
  let escaped : Reading := { parts := [.oneOf [escape]] }
  let opened : Reading := { characters := some [], outer := [[.oneOf [escape]]] }
  let filled : Reading := { characters := some [escape, quote], outer := [[.oneOf [escape]]] }
  have opens : ∀ pattern, readFrom escaped ('(' :: '[' :: pattern) = readFrom opened pattern := by
    intro pattern
    rw [readFrom_step (by decide) rfl, readFrom_step (by decide) rfl]
  have closes : readFrom filled "])?".toList =
      some { parts := [.optional (.group (.oneOf [escape, quote])), .oneOf [escape]] } := by
    change readFrom filled [']', ')', '?'] = _
    rw [readFrom_step (by decide) rfl, readFrom_step (by decide) rfl, readFrom_step (by decide) rfl]
    rfl
  unfold HiveCSVOptions.fieldEscapePattern RegularExpression.read
  rw [escapes, quotes, List.append_assoc, List.append_assoc, List.append_assoc, readFrom_quoteMeta]
  change (readFrom escaped ('(' :: '[' :: (quoteMeta [escape] ++ (quoteMeta [quote] ++ "])?".toList)))).bind _ = _
  rw [opens, readFrom_quoteMeta, readFrom_quoteMeta]
  change (readFrom filled "])?".toList).bind _ = _
  rw [closes]
  rfl

theorem regexpReplace_eq {options : HiveCSVOptions} {escape quote : Char} (escapes : options.fieldEscape = [escape])
    (quotes : options.quote = [quote]) (text : Text) :
    regexpReplace text options.fieldEscapePattern = some ((Unescapes.expression escape quote).replaceByGroup text) := by
  unfold regexpReplace
  rw [read_fieldEscapePattern escapes quotes]
  rfl

/-- The replacement drops what the characters say, and nothing else. -/
theorem regexpReplace_iff {options : HiveCSVOptions} {escape quote : Char} (escapes : options.fieldEscape = [escape])
    (quotes : options.quote = [quote]) {text read : Text} :
    regexpReplace text options.fieldEscapePattern = some read ↔ Unescapes escape quote text read := by
  rw [regexpReplace_eq escapes quotes, Option.some.injEq]
  constructor
  · intro replaced
    obtain ⟨other, unescapes⟩ := @Unescapes.exists_read escape quote text
    rw [unescapes.replace_eq] at replaced
    rwa [← replaced]
  · exact Unescapes.replace_eq

/-- A text without the escape character goes through the replacement unchanged. -/
theorem unescapeField_eq {options : HiveCSVOptions} {escape quote : Char} (escapes : options.fieldEscape = [escape])
    (quotes : options.quote = [quote]) (text : Text) :
    options.unescapeField text = regexpReplace text options.fieldEscapePattern := by
  unfold HiveCSVOptions.unescapeField
  rw [if_neg (by simp [escapes])]
  split_ifs with holds
  · rfl
  · symm
    apply (regexpReplace_iff escapes quotes).mpr
    have plain : escape ∉ text := by
      rw [escapes, contains_char] at holds
      exact holds
    clear holds
    induction text with
    | nil => exact .nil
    | cons c text ih =>
        rw [List.mem_cons, not_or] at plain
        exact .plain (Ne.symm plain.1) (ih plain.2)

namespace GlueTableInfo

variable {db : DuckDB} {table : GlueTableInfo} {options : HiveCSVOptions}

theorem getOpenCSVCharacter_single {key fallback value : Text} (one : ∃ c, fallback = [c])
    (read : table.getOpenCSVCharacter key fallback = .ok value) : ∃ c, value = [c] := by
  unfold getOpenCSVCharacter at read
  split at read
  · cases read
    exact one
  · cases read
    exact one
  · rename_i given _ _
    cases given with
    | nil => cases read
    | cons c given =>
        cases read
        exact ⟨c, rfl⟩

/-- What is read of an OpenCSVSerde table without escapeChar. -/
structure EscapedFields (table : GlueTableInfo) (options : HiveCSVOptions) (quote : Char) : Prop where
  serde : table.getSerDe = .ok .openCsv
  quoted : table.getQuoteCharacter = .ok [quote]
  quote : options.quote = [quote]
  escape : options.fieldEscape = ['\\']

theorem escapedFields_of_read (serde : table.getSerDe = .ok .openCsv) (read : table.getCSVOptions db = .ok options)
    (escapes : options.fieldEscape ≠ []) : ∃ quote, EscapedFields table options quote := by
  simp only [getCSVOptions, serde, bind_eq_ok, pure_eq_ok] at read
  obtain ⟨delimiter, _, quote, quoted, escape, _, skipLines, _, opened, isOpen, nullFormat, _, rfl⟩ := read
  cases isOpen
  have one : ∃ c, quote = [c] := by
    simp only [getQuoteCharacter, serde, bind_eq_ok] at quoted
    obtain ⟨opened, isOpen, read⟩ := quoted
    cases isOpen
    rw [if_pos rfl] at read
    exact getOpenCSVCharacter_single ⟨'"', rfl⟩ read
  obtain ⟨c, rfl⟩ := one
  refine ⟨c, serde, quoted, rfl, ?_⟩
  dsimp only at escapes ⊢
  split_ifs at escapes ⊢ with slash
  · rfl
  · exact absurd rfl escapes

end GlueTableInfo

namespace GlueHiveInsert

variable {db : DuckDB} {table : GlueTableInfo} {options : HiveCSVOptions} {quote : Char}

/-- The fields of such a table go through a copy with its quote character and come back. -/
structure EscapesRoundTrip (db : DuckDB) (table : GlueTableInfo) (options : HiveCSVOptions) (quote : Char) : Prop where
  written : ∀ {fields}, planTextFields db table = .ok fields → fields.quote = [quote] ∧
    ∀ column text, (∀ c ∈ text, c ≠ '\n' ∧ c ≠ '\r') →
      textField table fields column (some text) = .ok (some (escapedTextField text options.fieldEscape []))
  readBack : ∀ text, (unquotedField quote (quotedField quote (escapedTextField text options.fieldEscape []))).bind
    (fun field => regexpReplace field options.fieldEscapePattern) = some text
  dropped : ∀ {text read}, regexpReplace text options.fieldEscapePattern = some read ↔ Unescapes '\\' quote text read

/-- What `PlanWrite` writes of a value without line breaks. -/
theorem textField_escaped {fields : TextFields} (escaped : GlueTableInfo.EscapedFields table options quote)
    (read : table.getCSVOptions db = .ok options) (planned : planTextFields db table = .ok fields) :
    fields.quote = [quote] ∧ ∀ column text, (∀ c ∈ text, c ≠ '\n' ∧ c ≠ '\r') →
      textField table fields column (some text) = .ok (some (escapedTextField text options.fieldEscape [])) := by
  unfold planTextFields at planned
  simp only [bind_eq_ok, exists_unit_ok, guard_eq_ok (throw_eq_error _), pure_eq_ok] at planned
  obtain ⟨_, _, _, _, _, _, serde, serdeIs, _, _, _, given, quoted, _, _, csvOptions, csvRead, rfl⟩ := planned
  cases escaped.serde.symm.trans serdeIs
  cases escaped.quoted.symm.trans quoted
  cases read.symm.trans csvRead
  constructor
  · rfl
  · intro column text unbroken
    have passes : text.any (fun c => c ∈ ("\n\r" : Text)) = false := by
      rw [List.any_eq_false]
      intro c member
      simpa using unbroken c member
    have used : options.fieldEscape ≠ [] := by simp [escaped.escape]
    simp only [textField, checkedTextField, decide_true, if_true, passes, Bool.not_true, Bool.false_and,
      Bool.or_false, Bool.false_eq_true, if_false, ne_eq, not_true_eq_false, used, decide_false]
    rfl

/-- Without escapeChar a value OpenCSVSerde files can hold is read as it was written, and
the replacement drops exactly the backslashes that stand alone or start a pair. -/
theorem escapesRoundTrip (serde : table.getSerDe = .ok .openCsv) (read : table.getCSVOptions db = .ok options)
    (escapes : options.fieldEscape ≠ []) : ∃ quote, EscapesRoundTrip db table options quote := by
  obtain ⟨quote, escaped⟩ := GlueTableInfo.escapedFields_of_read serde read escapes
  refine ⟨quote, ?_⟩
  constructor
  · exact fun planned => textField_escaped escaped read planned
  · intro text
    have doubled : escapedTextField text options.fieldEscape [] =
        text.flatMap fun c => if c = '\\' then ['\\', '\\'] else [c] := by
      simp only [escapedTextField, if_true, List.foldl_cons, List.foldl_nil, escaped.escape, replace_char]
      rfl
    rw [unquotedField_quotedField, Option.bind_some, doubled]
    exact (regexpReplace_iff escaped.escape escaped.quote).mpr (Unescapes.doubled text)
  · exact regexpReplace_iff escaped.escape escaped.quote

/-- A table of the defaults of OpenCSVSerde. -/
theorem escapesRoundTrip_defaults :
    let table : GlueTableInfo := { serdeLibrary := "org.apache.hadoop.hive.serde2.OpenCSVSerde" }
    let options : HiveCSVOptions :=
      { nullString := "\n", serdeFields := true, nullForInvalidData := false, falseUnlessTrue := true,
        fieldEscape := "\\", epochFields := true }
    table.getSerDe = .ok .openCsv ∧ table.getCSVOptions ⟨fun _ => none⟩ = .ok options ∧
      ∃ quote, EscapesRoundTrip ⟨fun _ => none⟩ table options quote := by
  intro table options
  have read : table.getCSVOptions ⟨fun _ => none⟩ = .ok options := by rfl
  exact ⟨by rfl, read, escapesRoundTrip (by rfl) read (by decide)⟩

end GlueHiveInsert

end DuckGlue
