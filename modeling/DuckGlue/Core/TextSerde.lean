import DuckGlue.Core.GlueInfo
import DuckGlue.Lib.Fallible

/-! # Supported text SerDes

What `CheckTextSerdeSupported` leaves of a csv table: one byte to split lines at, at
most one to escape it, and a NULL string without the delimiter.
-/

namespace DuckGlue.GlueTableInfo

open StringUtil Fallible

variable {db : DuckDB} {table : GlueTableInfo}

/-- The text settings of a LazySimpleSerDe table that can be read and written. -/
structure LazySimpleSettings (db : DuckDB) (table : GlueTableInfo) (escape delimiter nullFormat : Text) : Prop where
  escaped : table.getEscapeCharacter = .ok escape
  oneByte : ¬ size escape > 1
  delimited : table.getFieldDelimiter db = .ok delimiter
  differs : escape ≠ delimiter
  lineBreaks : ¬ table.propertyIs "serialization.escape.crlf" "true" = true
  encoding : ∀ value, table.tryGetProperty "serialization.encoding" = some value →
    (ciEquals value "UTF-8" || ciEquals value "UTF8") = true
  lastColumn : ¬ table.propertyIs "serialization.last.column.takes.rest" "true" = true
  nulls : table.getNullFormat = .ok nullFormat
  undelimited : ¬ contains nullFormat delimiter = true

/-- What a refusal throws. -/
theorem refuse_eq_error (what : Text) : table.refuse what = .error (.notImplemented
    ("Hive table '" ++ table.schemaName ++ "." ++ table.name ++ "' " ++ what ++
      ", which DuckDB can not read or write")) := rfl

theorem checkLazySimpleSupported_eq_ok : table.checkLazySimpleSupported db = .ok () ↔
    ∃ escape delimiter nullFormat, LazySimpleSettings db table escape delimiter nullFormat := by
  unfold checkLazySimpleSupported
  cases encoding : table.tryGetProperty "serialization.encoding" with
  | none =>
      simp only [bind_eq_ok, guard_eq_ok (refuse_eq_error _), stop_eq_ok (refuse_eq_error _), pure_eq_ok, and_true]
      constructor
      · rintro ⟨escape, escaped, oneByte, delimiter, delimited, differs, lineBreaks, lastColumn, nullFormat, nulls,
          undelimited⟩
        refine ⟨escape, delimiter, nullFormat, escaped, oneByte, delimited, differs, lineBreaks, ?_, lastColumn, nulls,
          undelimited⟩
        intro value found
        cases encoding.symm.trans found
      · rintro ⟨escape, delimiter, nullFormat, settings⟩
        exact ⟨escape, settings.escaped, settings.oneByte, delimiter, settings.delimited, settings.differs,
          settings.lineBreaks, settings.lastColumn, nullFormat, settings.nulls, settings.undelimited⟩
  | some value =>
      simp only [bind_eq_ok, guard_eq_ok (refuse_eq_error _), stop_eq_ok (refuse_eq_error _), pure_eq_ok, and_true]
      have utf8 : ¬(!ciEquals value "UTF-8" && !ciEquals value "UTF8") = true ↔
          (ciEquals value "UTF-8" || ciEquals value "UTF8") = true := by
        cases ciEquals value "UTF-8" <;> cases ciEquals value "UTF8" <;> decide
      constructor
      · rintro ⟨escape, escaped, oneByte, delimiter, delimited, differs, lineBreaks, readable, lastColumn, nullFormat,
          nulls, undelimited⟩
        refine ⟨escape, delimiter, nullFormat, escaped, oneByte, delimited, differs, lineBreaks, ?_, lastColumn, nulls,
          undelimited⟩
        intro other found
        cases encoding.symm.trans found
        exact utf8.mp readable
      · rintro ⟨escape, delimiter, nullFormat, settings⟩
        exact ⟨escape, settings.escaped, settings.oneByte, delimiter, settings.delimited, settings.differs,
          settings.lineBreaks, utf8.mpr (settings.encoding value encoding), settings.lastColumn, nullFormat,
          settings.nulls, settings.undelimited⟩

/-- The text settings of an OpenCSVSerde table that can be read and written. -/
structure OpenCSVSettings (table : GlueTableInfo) (quote escape : Text) : Prop where
  quoted : table.getQuoteCharacter = .ok quote
  escaped : table.getEscapeCharacter = .ok escape
  oneByte : size quote ≤ 1 ∧ size escape ≤ 1

theorem checkTextSerdeSupported_csv : table.checkTextSerdeSupported db .csv = .ok () ↔
    table.getCountProperty db "skip.footer.line.count" = .ok 0 ∧
      (∀ column ∈ table.columns, column.type.contains '<' = false) ∧
      ∃ serde, table.getSerDe = .ok serde ∧
        if serde = .openCsv then ∃ quote escape, OpenCSVSettings table quote escape
        else ∃ escape delimiter nullFormat, LazySimpleSettings db table escape delimiter nullFormat := by
  have flat : table.columns.find? (fun column => column.type.contains '<') = none ↔
      ∀ column ∈ table.columns, column.type.contains '<' = false := by simp
  have opened : ∀ serde, ((if serde = HiveSerDe.openCsv then do
        let quote ← table.getQuoteCharacter
        let escape ← table.getEscapeCharacter
        if size quote > 1 || size escape > 1 then
          table.refuse "has a quoteChar or escapeChar of more than one byte"
        else pure ()
      else table.checkLazySimpleSupported db) = .ok ()) ↔
        if serde = .openCsv then ∃ quote escape, OpenCSVSettings table quote escape
        else ∃ escape delimiter nullFormat, LazySimpleSettings db table escape delimiter nullFormat := by
    intro serde
    split_ifs
    · simp only [bind_eq_ok, stop_eq_ok (refuse_eq_error _), pure_eq_ok, and_true]
      constructor
      · rintro ⟨quote, quoted, escape, escaped, oneByte⟩
        refine ⟨quote, escape, quoted, escaped, ?_⟩
        simpa using oneByte
      · rintro ⟨quote, escape, settings⟩
        refine ⟨quote, settings.quoted, escape, settings.escaped, ?_⟩
        simpa using settings.oneByte
    · exact checkLazySimpleSupported_eq_ok
  unfold checkTextSerdeSupported
  cases nested : table.columns.find? fun column => column.type.contains '<' with
  | none =>
      simp only [bind_eq_ok, guard_eq_ok (refuse_eq_error _), reduceCtorEq, if_false, opened]
      constructor
      · rintro ⟨footer, count, none, serde⟩
        obtain rfl : footer = 0 := by omega
        exact ⟨count, flat.mp nested, serde⟩
      · rintro ⟨count, -, serde⟩
        exact ⟨0, count, by omega, serde⟩
  | some column =>
      simp only [bind_eq_ok, guard_eq_ok (refuse_eq_error _), reduceCtorEq, if_false]
      simp only [refuse_eq_error, reduceCtorEq, false_and, exists_false, and_false, false_iff]
      rintro ⟨-, noNested, -⟩
      rw [flat.mpr noNested] at nested
      cases nested

end DuckGlue.GlueTableInfo
