import DuckGlue.Lib.Fallible
import DuckGlue.Planning.HiveScanInfo

/-! # The reader of a partition's own storage

What Hive reads a partition with is the partition's own storage. The scan reads it
with the table's reader, so a partition that passes the check has to be read alike.
-/

namespace DuckGlue

open StringUtil Fallible GlueTableFormat

namespace GlueTableInfo

/-- The OpenX SerDe is told to read past lines that do not parse. -/
def ignoresErrors (storage : GlueTableInfo) : Bool :=
  storage.getSerDe.toOption = some .openxJson &&
    (storage.propertyIs "ignore.malformed.json" "true" || storage.propertyIs "use.null.for.invalid.data" "true")

/-- The OpenX SerDe is told to match object keys exactly. -/
def matchesKeysExactly (storage : GlueTableInfo) : Bool :=
  storage.getSerDe.toOption = some .openxJson && storage.propertyIs "case.insensitive" "false"

/-- Two definitions of one table with the same SerDe and the same properties. -/
structure SameSerDe (a b : GlueTableInfo) : Prop where
  name : a.name = b.name
  schemaName : a.schemaName = b.schemaName
  columns : a.columns = b.columns
  getSerDe : ∀ {serde}, a.getSerDe = .ok serde → b.getSerDe = .ok serde
  property : ∀ key, a.tryGetProperty key = b.tryGetProperty key

namespace SameSerDe

variable {db : DuckDB} {a b : GlueTableInfo} {serde : HiveSerDe}

theorem propertyIs (same : SameSerDe a b) (key value : Text) : a.propertyIs key value = b.propertyIs key value := by
  simp only [GlueTableInfo.propertyIs, same.property]

theorem getCountProperty (same : SameSerDe a b) (key : Text) :
    a.getCountProperty db key = b.getCountProperty db key := by
  simp only [GlueTableInfo.getCountProperty, same.property, same.name, same.schemaName]

theorem getOpenCSVCharacter (same : SameSerDe a b) (key fallback : Text) :
    a.getOpenCSVCharacter key fallback = b.getOpenCSVCharacter key fallback := by
  simp only [GlueTableInfo.getOpenCSVCharacter, same.property, same.name, same.schemaName]

theorem getFieldDelimiter (same : SameSerDe a b) (h : a.getSerDe = .ok serde) :
    a.getFieldDelimiter db = b.getFieldDelimiter db := by
  simp only [GlueTableInfo.getFieldDelimiter, GlueTableInfo.lazySimpleSeparator, h, same.getSerDe h,
    same.getOpenCSVCharacter, same.property, same.name, same.schemaName]

theorem getNullFormat (same : SameSerDe a b) (h : a.getSerDe = .ok serde) : a.getNullFormat = b.getNullFormat := by
  simp only [GlueTableInfo.getNullFormat, h, same.getSerDe h, same.property]

theorem getQuoteCharacter (same : SameSerDe a b) (h : a.getSerDe = .ok serde) :
    a.getQuoteCharacter = b.getQuoteCharacter := by
  simp only [GlueTableInfo.getQuoteCharacter, h, same.getSerDe h, same.getOpenCSVCharacter]

theorem getEscapeCharacter (same : SameSerDe a b) (h : a.getSerDe = .ok serde) :
    a.getEscapeCharacter = b.getEscapeCharacter := by
  simp only [GlueTableInfo.getEscapeCharacter, h, same.getSerDe h, same.getOpenCSVCharacter,
    same.getQuoteCharacter h, same.property]

theorem getCSVOptions (same : SameSerDe a b) (h : a.getSerDe = .ok serde) :
    a.getCSVOptions db = b.getCSVOptions db := by
  simp only [GlueTableInfo.getCSVOptions, GlueTableInfo.getHeaderLineCount, h, same.getSerDe h,
    same.getFieldDelimiter h, same.getQuoteCharacter h, same.getEscapeCharacter h, same.getCountProperty,
    same.getNullFormat h, same.property, same.propertyIs]

theorem checkTextSerdeSupported (same : SameSerDe a b) (h : a.getSerDe = .ok serde) (format : HiveFileFormat) :
    a.checkTextSerdeSupported db format = b.checkTextSerdeSupported db format := by
  simp only [GlueTableInfo.checkTextSerdeSupported, GlueTableInfo.checkLazySimpleSupported, GlueTableInfo.refuse,
    GlueTableInfo.getHeaderLineCount, h, same.getSerDe h, same.getFieldDelimiter h, same.getQuoteCharacter h,
    same.getEscapeCharacter h, same.getCountProperty, same.getNullFormat h, same.property, same.propertyIs,
    same.name, same.schemaName, same.columns]

theorem ignoresErrors (same : SameSerDe a b) (h : a.getSerDe = .ok serde) : a.ignoresErrors = b.ignoresErrors := by
  simp only [GlueTableInfo.ignoresErrors, h, same.getSerDe h, same.propertyIs]

theorem matchesKeysExactly (same : SameSerDe a b) (h : a.getSerDe = .ok serde) :
    a.matchesKeysExactly = b.matchesKeysExactly := by
  simp only [GlueTableInfo.matchesKeysExactly, h, same.getSerDe h, same.propertyIs]

end SameSerDe

section Properties

variable (db : DuckDB) (storage : GlueTableInfo)

/-- The property LazySimpleSerDe takes its separator from. -/
def separator : Text :=
  (storage.tryGetProperty "field.delim" <|> storage.tryGetProperty "serialization.format").getD []

/-- The first character of a property, the fallback where it is not set. -/
def character (key fallback : Text) : Text :=
  match storage.tryGetProperty key with
  | none | some [] => fallback
  | some (first :: _) => [first]

/-- The properties LazySimpleSerDe reads a file by agree. -/
structure SameLazySimple (db : DuckDB) (a b : GlueTableInfo) : Prop where
  separator : a.lazySimpleSeparator db a.separator = b.lazySimpleSeparator db b.separator
  escape : (a.tryGetProperty "escape.delim").getD [] = (b.tryGetProperty "escape.delim").getD []
  nullFormat : (a.tryGetProperty "serialization.null.format").getD "\\N".toList =
    (b.tryGetProperty "serialization.null.format").getD "\\N".toList
  header : a.getCountProperty db "skip.header.line.count" = b.getCountProperty db "skip.header.line.count"

/-- The properties OpenCSVSerde reads a file by agree. An escape character that is
not set is a backslash, unless that is the separator or the quote. -/
structure SameOpenCsv (db : DuckDB) (a b : GlueTableInfo) : Prop where
  separator : a.character "separatorChar" "," = b.character "separatorChar" ","
  quote : a.character "quoteChar" "\"" = b.character "quoteChar" "\""
  escape : a.character "escapeChar" (a.character "quoteChar" "\"") = b.character "escapeChar" (b.character "quoteChar" "\"")
  unset : b.character "separatorChar" "," = "\\".toList ∨ b.character "quoteChar" "\"" = "\\".toList ∨
    (a.character "escapeChar" [] = [] ↔ b.character "escapeChar" [] = [])
  invalidData : a.propertyIs "use.null.for.invalid.data" "true" = b.propertyIs "use.null.for.invalid.data" "true"
  header : a.getCountProperty db "skip.header.line.count" = b.getCountProperty db "skip.header.line.count"

/-- The properties a reader of the OpenX SerDe applies agree. -/
structure SameOpenX (a b : GlueTableInfo) : Prop where
  ignoresErrors : a.ignoresErrors = b.ignoresErrors
  matchesKeysExactly : a.matchesKeysExactly = b.matchesKeysExactly

/-- The properties this SerDe reads a file by agree: the columnar formats and Hive's
own JsonSerDe read by none. -/
def SameProperties (serde : HiveSerDe) (a b : GlueTableInfo) : Prop :=
  match serde with
  | .parquet | .avro | .hiveJson => True
  | .lazySimple => SameLazySimple db a b
  | .openCsv => SameOpenCsv db a b
  | .openxJson => SameOpenX a b

variable {db storage} {options : HiveCSVOptions}

theorem getOpenCSVCharacter_eq (key fallback : Text) :
    storage.getOpenCSVCharacter key fallback = .ok (storage.character key fallback) := by
  unfold getOpenCSVCharacter character
  cases storage.tryGetProperty key with
  | none => rfl
  | some value =>
      cases value with
      | nil => rfl
      | cons first rest => rfl

theorem escapeSet_eq : ((storage.tryGetProperty "escapeChar").any fun value => !decide (value = [])) =
    !decide (storage.character "escapeChar" [] = []) := by
  unfold character
  cases storage.tryGetProperty "escapeChar" with
  | none => rfl
  | some value =>
      cases value with
      | nil => rfl
      | cons first rest => simp

theorem getCSVOptions_lazySimple (serde : storage.getSerDe = .ok .lazySimple) :
    storage.getCSVOptions db = .ok options ↔ ∃ delimiter skipLines,
      storage.lazySimpleSeparator db storage.separator = .ok delimiter ∧
      storage.getCountProperty db "skip.header.line.count" = .ok skipLines ∧
      options = {
        delimiter, skipLines
        quote := []
        escape := (storage.tryGetProperty "escape.delim").getD []
        nullString := (storage.tryGetProperty "serialization.null.format").getD "\\N".toList
        serdeFields := true } := by
  simp only [getCSVOptions, getFieldDelimiter, getQuoteCharacter, getEscapeCharacter, getHeaderLineCount, getNullFormat,
    serde, bind_eq_ok, pure_eq_ok, Except.ok.injEq, exists_eq_left', reduceCtorEq, if_false, decide_false,
    Bool.false_and, Bool.true_or, decide_true, ne_eq, not_false_eq_true, Bool.false_eq_true]
  constructor
  · intro read
    obtain ⟨delimiter, separated, skipLines, counted, same⟩ := read
    exact ⟨delimiter, skipLines, separated, counted, same.symm⟩
  · intro read
    obtain ⟨delimiter, skipLines, separated, counted, same⟩ := read
    exact ⟨delimiter, separated, skipLines, counted, same.symm⟩

/-- The options of an OpenCSVSerde table; `given` is its escape character, empty when
not set. -/
def openCsvOptions (separator quote escape given : Text) (invalidData : Bool) (skipLines : Nat) : HiveCSVOptions where
  delimiter := separator
  quote := quote
  escape := escape
  skipLines := skipLines
  nullString := "\n"
  serdeFields := true
  nullForInvalidData := invalidData
  falseUnlessTrue := true
  fieldEscape := if given = [] ∧ separator ≠ "\\".toList ∧ quote ≠ "\\".toList then "\\" else []
  epochFields := true

theorem openCsvOptions_inj {s s' q q' e e' g g' : Text} {i i' : Bool} {n n' : Nat} :
    openCsvOptions s q e g i n = openCsvOptions s' q' e' g' i' n' ↔
      s = s' ∧ q = q' ∧ e = e' ∧ (s' = "\\".toList ∨ q' = "\\".toList ∨ (g = [] ↔ g' = [])) ∧ i = i' ∧ n = n' := by
  generalize backslash : "\\".toList = c
  have given : c ≠ [] := backslash ▸ List.cons_ne_nil _ _
  simp only [openCsvOptions, backslash, HiveCSVOptions.mk.injEq, true_and, and_true]
  clear backslash
  constructor
  · intro same
    obtain ⟨rfl, rfl, rfl, rfl, rfl, escape⟩ := same
    refine ⟨rfl, rfl, rfl, ?_, rfl, rfl⟩
    split_ifs at escape <;> grind
  · intro same
    obtain ⟨rfl, rfl, rfl, unset, rfl, rfl⟩ := same
    refine ⟨rfl, rfl, rfl, rfl, rfl, ?_⟩
    split_ifs <;> grind

theorem getCSVOptions_openCsv (serde : storage.getSerDe = .ok .openCsv) :
    storage.getCSVOptions db = .ok options ↔ ∃ skipLines,
      storage.getCountProperty db "skip.header.line.count" = .ok skipLines ∧
      openCsvOptions (storage.character "separatorChar" ",") (storage.character "quoteChar" "\"")
        (storage.character "escapeChar" (storage.character "quoteChar" "\"")) (storage.character "escapeChar" [])
        (storage.propertyIs "use.null.for.invalid.data" "true") skipLines = options := by
  simp only [getCSVOptions, getFieldDelimiter, getQuoteCharacter, getEscapeCharacter, getHeaderLineCount, getNullFormat,
    serde, bind_eq_ok, pure_eq_ok, Except.ok.injEq, exists_eq_left', if_true, getOpenCSVCharacter_eq, decide_true,
    decide_not, escapeSet_eq, Bool.not_not, Bool.not_true, Bool.false_or, ne_eq, Bool.and_eq_true, true_and,
    decide_eq_true_eq, Bool.not_eq_true', decide_eq_false_iff_not, and_assoc, openCsvOptions]

/-- Two storages of one SerDe have equal reader options exactly when its properties agree. -/
theorem getCSVOptions_eq_iff {a b : GlueTableInfo} {serde : HiveSerDe} (left : a.getSerDe = .ok serde)
    (right : b.getSerDe = .ok serde) (isCsv : serde.fileFormat = .csv) (read : b.getCSVOptions db = .ok options) :
    a.getCSVOptions db = .ok options ↔ SameProperties db serde a b := by
  cases serde with
  | parquet | avro | hiveJson | openxJson => cases isCsv
  | lazySimple =>
      obtain ⟨delimiter, skipLines, separated, counted, rfl⟩ := (getCSVOptions_lazySimple right).mp read
      rw [getCSVOptions_lazySimple left]
      constructor
      · intro own
        obtain ⟨ownDelimiter, ownSkip, ownSeparated, ownCounted, same⟩ := own
        simp only [HiveCSVOptions.mk.injEq] at same
        refine ⟨?_, same.2.2.1.symm, same.2.2.2.2.1.symm, ?_⟩
        · rw [ownSeparated, separated, same.1]
        · rw [ownCounted, counted, same.2.2.2.1]
      · intro same
        exact ⟨delimiter, skipLines, same.separator.trans separated, same.header.trans counted, by
          rw [same.escape, same.nullFormat]⟩
  | openCsv =>
      obtain ⟨skipLines, counted, rfl⟩ := (getCSVOptions_openCsv right).mp read
      rw [getCSVOptions_openCsv left]
      constructor
      · intro own
        obtain ⟨ownSkip, ownCounted, same⟩ := own
        obtain ⟨separator, quote, escape, unset, invalidData, header⟩ := openCsvOptions_inj.mp same
        exact ⟨separator, quote, escape, unset, invalidData, by rw [ownCounted, counted, header]⟩
      · intro same
        exact ⟨skipLines, same.header.trans counted, openCsvOptions_inj.mpr
          ⟨same.separator, same.quote, same.escape, same.unset, same.invalidData, rfl⟩⟩

end Properties

theorem getFileFormat_eq_ok {table : GlueTableInfo} {format : HiveFileFormat} :
    table.getFileFormat = .ok format ↔ ∃ serde, table.getSerDe = .ok serde ∧ serde.fileFormat = format := by
  simp only [getFileFormat, bind_eq_ok, pure_eq_ok]

end GlueTableInfo

section JSONOptions

open HiveJSONOptions

/-- A property that is only logged leaves the reader alone. -/
theorem applyProperty_notApplied {table : GlueTableInfo} {property : JsonSerDeProperty} (result : HiveJSONOptions)
    (h : property.effect = .notAppliedIfSet ∨ property.effect = .notAppliedIfTrue) :
    (applyProperty table result property).ignoreErrors = result.ignoreErrors ∧
      (applyProperty table result property).caseInsensitiveKeys = result.caseInsensitiveKeys := by
  unfold applyProperty
  induction propertyKeys table property generalizing result with
  | nil => exact ⟨rfl, rfl⟩
  | cons key keys ih =>
      rw [List.foldl_cons]
      refine ⟨(ih _).1.trans ?_, (ih _).2.trans ?_⟩
      all_goals
        cases table.tryGetProperty key with
        | none => rfl
        | some value =>
            obtain h | h := h
            all_goals
              simp only [h, HiveJSONOptions.apply]
              split_ifs <;> rfl

theorem applyProperty_ignoreErrors {table : GlueTableInfo} {name : Text} (result : HiveJSONOptions) :
    applyProperty table result ⟨.openxJson, name, false, .ignoreErrorsIfTrue⟩ =
      { result with ignoreErrors := result.ignoreErrors || table.propertyIs name "true" } := by
  cases set : table.tryGetProperty name with
  | none => simp [applyProperty, propertyKeys, GlueTableInfo.propertyIs, set]
  | some value => simp [applyProperty, propertyKeys, GlueTableInfo.propertyIs, HiveJSONOptions.apply, set]

theorem applyProperty_exactKeys {table : GlueTableInfo} {name : Text} (result : HiveJSONOptions) :
    applyProperty table result ⟨.openxJson, name, false, .exactKeysIfFalse⟩ =
      { result with caseInsensitiveKeys := result.caseInsensitiveKeys && !table.propertyIs name "false" } := by
  cases set : table.tryGetProperty name with
  | none => simp [applyProperty, propertyKeys, GlueTableInfo.propertyIs, set]
  | some value =>
      simp only [applyProperty, propertyKeys, GlueTableInfo.propertyIs, HiveJSONOptions.apply, set,
        List.foldl_cons, List.foldl_nil, Option.any_some, Bool.false_eq_true, if_false]
      cases ciEquals value "false".toList <;> simp

/-- What the scan applies of the SerDe properties of a json table. -/
theorem fromTable_options {table : GlueTableInfo} {options : HiveJSONOptions} (h : fromTable table = .ok options) :
    options.ignoreErrors = table.ignoresErrors ∧ options.caseInsensitiveKeys = !table.matchesKeysExactly := by
  unfold fromTable at h
  obtain ⟨serde, library, h⟩ := bind_eq_ok.mp h
  rw [pure_eq_ok] at h
  subst h
  simp only [GlueTableInfo.ignoresErrors, GlueTableInfo.matchesKeysExactly, library, Except.toOption]
  cases serde with
  | openxJson =>
      simp only [jsonSerDeProperties, List.filter, decide_true, decide_false, List.foldl_cons, List.foldl_nil,
        reduceCtorEq, applyProperty_ignoreErrors, applyProperty_exactKeys]
      refine ⟨(applyProperty_notApplied _ (.inr rfl)).1.trans ?_, (applyProperty_notApplied _ (.inr rfl)).2.trans ?_⟩
      · rw [(applyProperty_notApplied _ (.inl rfl)).1]
        simp
      · rw [(applyProperty_notApplied _ (.inl rfl)).2]
        simp
  | hiveJson =>
      simp only [jsonSerDeProperties, List.filter, decide_true, decide_false, List.foldl_cons, List.foldl_nil,
        reduceCtorEq]
      refine ⟨(applyProperty_notApplied _ (.inl rfl)).1.trans ?_, (applyProperty_notApplied _ (.inl rfl)).2.trans ?_⟩
        <;> simp
  | parquet | lazySimple | openCsv | avro =>
      simp [jsonSerDeProperties, List.filter]

theorem fromTable_ok {table : GlueTableInfo} {serde : HiveSerDe} (h : table.getSerDe = .ok serde) :
    ∃ options, fromTable table = .ok options := by
  simp only [fromTable, h]
  exact ⟨_, rfl⟩

end JSONOptions

namespace HiveScanInfo

/-- The reader the scan binds is the reader of the storage. -/
structure ReadsLike (db : DuckDB) (scan : HiveScanInfo) (storage : GlueTableInfo) : Prop where
  fileFormat : storage.getFileFormat = .ok scan.fileFormat
  csv : scan.fileFormat = .csv → storage.getCSVOptions db = .ok scan.csvOptions
  json : scan.fileFormat = .json → ∃ options, storage.getJSONOptions = .ok options ∧
    options.ignoreErrors = scan.jsonOptions.ignoreErrors ∧
    options.caseInsensitiveKeys = scan.jsonOptions.caseInsensitiveKeys

/-- The partition's own storage: its descriptor fields, the table's where it has none. -/
def ownStorage (table : GlueTableInfo) (partition : GluePartitionInfo) : GlueTableInfo :=
  { table with
    inputFormat := if partition.inputFormat = [] then table.inputFormat else partition.inputFormat
    serdeLibrary := if partition.serdeLibrary = [] then table.serdeLibrary else partition.serdeLibrary
    serdeParameters :=
      if partition.serdeParameters.entries = [] then table.serdeParameters else partition.serdeParameters }

section Bound

variable {db : DuckDB} {catalogName : Text} {entry : GlueTable} {scan : HiveScanInfo}

/-- What binding a scan of a table has established. -/
structure BoundTo (db : DuckDB) (scan : HiveScanInfo) (entry : GlueTable) : Prop where
  table : scan.table = some entry
  isHive : entry.tableInfo.getFormat.isHive = true
  supported : scan.fileFormat.isText = true → entry.tableInfo.checkTextSerdeSupported db scan.fileFormat = .ok ()
  readsLike : ReadsLike db scan entry.tableInfo

theorem getHiveScanFunction_readsLike (bound : entry.getHiveScanFunction db catalogName = .ok scan) :
    scan.table = some entry ∧
      (scan.fileFormat.isText = true → entry.tableInfo.checkTextSerdeSupported db scan.fileFormat = .ok ()) ∧
      ReadsLike db scan entry.tableInfo ∧ scan.names = entry.columns.map (·.1) ∧
      scan.types = entry.columns.map (·.2) := by
  unfold GlueTable.getHiveScanFunction at bound
  obtain ⟨fileFormat, format, bound⟩ := bind_eq_ok.mp bound
  cases fileFormat with
  | parquet | avro =>
      simp only [HiveFileFormat.isText, reduceCtorEq, decide_false, Bool.or_self, Bool.false_eq_true, if_false,
        bind_eq_ok, pure_eq_ok] at bound
      obtain ⟨_, -, _, -, rfl⟩ := bound
      exact ⟨rfl, (fun text => by cases text), ⟨format, (fun csv => by cases csv), (fun json => by cases json)⟩, rfl, rfl⟩
  | csv =>
      simp only [HiveFileFormat.isText, reduceCtorEq, decide_true, decide_false, Bool.or_false, if_true, if_false,
        bind_eq_ok, pure_eq_ok, exists_unit_ok] at bound
      obtain ⟨supported, _, options, _, -, rfl⟩ := bound
      exact ⟨rfl, fun _ => supported, ⟨format, fun _ => options, (fun json => by cases json)⟩, rfl, rfl⟩
  | json =>
      simp only [HiveFileFormat.isText, reduceCtorEq, decide_true, decide_false, Bool.or_true, if_true, if_false,
        bind_eq_ok, pure_eq_ok, exists_unit_ok] at bound
      obtain ⟨supported, _, -, _, options, rfl⟩ := bound
      exact ⟨rfl, fun _ => supported, ⟨format, (fun csv => by cases csv), fun _ => ⟨_, options, rfl, rfl⟩⟩, rfl, rfl⟩

theorem getScanFunction_boundTo (bound : entry.getScanFunction db catalogName = .ok scan) :
    BoundTo db scan entry := by
  unfold GlueTable.getScanFunction at bound
  dsimp only at bound
  split_ifs at bound with notHive projected
  obtain ⟨table, supported, readsLike, -⟩ := getHiveScanFunction_readsLike bound
  exact ⟨table, by simpa using notHive, supported, readsLike⟩

end Bound

section Check

variable {db : DuckDB} {scan : HiveScanInfo} {storage : GlueTableInfo} {entry : GlueTable}
  {partition : GluePartitionInfo}

theorem toText_ne_nil (format : HiveFileFormat) : format.toText ≠ [] := by
  unfold HiveFileFormat.toText
  split <;> simp

theorem describe_ne_nil (format : GlueTableFormat) (info : GlueTableInfo) : format.describe info ≠ [] := by
  have named : format.toText ≠ [] := by
    unfold GlueTableFormat.toText
    split <;> simp
  unfold GlueTableFormat.describe
  split
  · simp
  · simp
  · split_ifs
    · simp
    · exact named
  · exact named

theorem optionsDiffer_eq_nil : scan.optionsDiffer db storage = .ok [] ↔
    (scan.fileFormat = .csv → storage.getCSVOptions db = .ok scan.csvOptions) ∧
      (scan.fileFormat = .json → ∃ options, storage.getJSONOptions = .ok options ∧
        options.ignoreErrors = scan.jsonOptions.ignoreErrors) := by
  unfold optionsDiffer
  cases scan.fileFormat with
  | parquet | avro => exact iff_of_true rfl ⟨nofun, nofun⟩
  | csv =>
      rw [bind_eq_ok]
      refine ⟨?_, fun h => ⟨_, h.1 rfl, by simp⟩⟩
      intro h
      obtain ⟨options, read, same⟩ := h
      refine ⟨fun _ => ?_, nofun⟩
      by_cases differ : options = scan.csvOptions
      · rw [read, differ]
      · simp [differ] at same
  | json =>
      rw [bind_eq_ok]
      refine ⟨?_, ?_⟩
      · intro h
        obtain ⟨options, read, same⟩ := h
        refine ⟨nofun, fun _ => ⟨options, read, ?_⟩⟩
        by_cases differ : options.ignoreErrors = scan.jsonOptions.ignoreErrors
        · exact differ
        · simp [differ] at same
      · intro h
        obtain ⟨options, read, same⟩ := h.2 rfl
        exact ⟨options, read, by simp [same]⟩

theorem readDifferently_eq_nil : scan.readDifferently db storage = .ok [] ↔
    storage.getFileFormat = .ok scan.fileFormat ∧
      (scan.fileFormat.isText = true → storage.checkTextSerdeSupported db scan.fileFormat = .ok ()) ∧
      scan.optionsDiffer db storage = .ok [] := by
  unfold readDifferently
  rw [bind_eq_ok]
  cases format : storage.getFileFormat with
  | error exception => exact ⟨nofun, nofun⟩
  | ok partitionFormat =>
      simp only [Except.ok.injEq, exists_eq_left']
      by_cases same : partitionFormat = scan.fileFormat
      · subst same
        cases text : scan.fileFormat.isText with
        | false => simp only [Bool.false_eq_true, if_false, ne_eq, not_true, true_and, false_implies]
        | true => simp only [if_true, bind_eq_ok, exists_unit_ok, ne_eq, not_true, if_false, true_and, true_implies]
      · cases text : partitionFormat.isText with
        | false =>
            simp only [Bool.false_eq_true, if_false, if_true, ne_eq, same, not_false_eq_true, false_and, iff_false]
            exact fun h => toText_ne_nil _ (pure_eq_ok.mp h)
        | true =>
            simp only [if_true, bind_eq_ok, exists_unit_ok, ne_eq, same, not_false_eq_true, false_and, iff_false]
            exact fun h => toText_ne_nil _ (pure_eq_ok.mp h.2)

theorem storedAs_eq_nil : scan.storedAs db storage = .ok [] ↔
    storage.getFormat.isHive = true ∧ scan.readDifferently db storage = .ok [] := by
  unfold storedAs
  cases hive : storage.getFormat.isHive with
  | false =>
      simp only [hive, Bool.not_false, if_true]
      exact ⟨fun h => absurd (Except.ok.inj h) (describe_ne_nil _ _), nofun⟩
  | true =>
      simp only [hive, Bool.not_true, Bool.false_eq_true, if_false, true_and]
      cases read : scan.readDifferently db storage with
      | ok stored => exact Iff.rfl
      | error exception =>
          refine ⟨fun h => ?_, nofun⟩
          dsimp only at h
          split_ifs at h
          exact absurd (Except.ok.inj h) (by simp)

/-- What passes the check: the table's own storage by name, or a Hive storage that
is not read differently. -/
theorem partitionStorageMismatch_eq_none (table : scan.table = some entry) :
    scan.partitionStorageMismatch db partition = .ok none ↔
      namesTableStorage entry.tableInfo partition = true ∨
        ((partitionStorage entry.tableInfo partition).getFormat.isHive = true ∧
          scan.readDifferently db (partitionStorage entry.tableInfo partition) = .ok []) := by
  unfold partitionStorageMismatch
  simp only [table]
  cases named : namesTableStorage entry.tableInfo partition with
  | true => simp
  | false =>
      simp only [Bool.false_eq_true, if_false, false_or, ← storedAs_eq_nil, bind_eq_ok]
      refine ⟨?_, fun h => ⟨[], h, rfl⟩⟩
      intro h
      obtain ⟨stored, read, none⟩ := h
      split_ifs at none with same
      · rw [read, same]
      · simp at none

/-- The check takes the SerDe parameters of a partition exactly when it names a SerDe
library. -/
theorem ownStorage_eq (known : partition.serdeLibrary = [] ↔ partition.serdeParameters.entries = [])
    (table : GlueTableInfo) : ownStorage table partition = partitionStorage table partition := by
  simp only [ownStorage, partitionStorage, known]

/-- Without a SerDe library the check looks at the table's SerDe. -/
theorem partitionStorage_sameSerDe (library : partition.serdeLibrary = []) (table : GlueTableInfo) :
    GlueTableInfo.SameSerDe table (partitionStorage table partition) where
  name := rfl
  schemaName := rfl
  columns := rfl
  getSerDe := GlueTableInfo.getSerDe_congr (by simp [partitionStorage, library])
  property := by simp [partitionStorage, library, GlueTableInfo.tryGetProperty]

theorem namesTableStorage_sameSerDe {table : GlueTableInfo} (named : namesTableStorage table partition = true) :
    GlueTableInfo.SameSerDe table (partitionStorage table partition) := by
  by_cases library : partition.serdeLibrary = []
  · exact partitionStorage_sameSerDe library table
  · simp only [namesTableStorage, library, decide_false, Bool.false_or, Bool.and_eq_true, ciEquals_iff] at named
    exact ⟨rfl, rfl, rfl, GlueTableInfo.getSerDe_congr named.1.2.symm, fun key => by
      simp [partitionStorage, library, GlueTableInfo.tryGetProperty, Parameters.lookup_same named.2 key]⟩

/-- The InputFormat is the table's up to its letters' case. -/
theorem namesTableStorage_isHive {table : GlueTableInfo} (named : namesTableStorage table partition = true)
    (hive : table.getFormat.isHive = true) : (partitionStorage table partition).getFormat.isHive = true := by
  simp only [namesTableStorage, Bool.and_eq_true] at named
  obtain ⟨parameters, inputFormat, storage⟩ := detect_isHive.mp hive
  refine detect_isHive.mpr ⟨parameters, ?_, ?_⟩
  · rw [fromInputFormat_ciEquals named.1.1, inputFormat]
  · refine storage.imp_left fun given => ?_
    have length := congrArg List.length (ciEquals_iff.mp named.1.1)
    simp only [lower_length] at length
    exact fun none => given (List.length_eq_zero_iff.mp (by rw [← length, none, List.length_nil]))

theorem ReadsLike.sameSerDe {other : GlueTableInfo} (reads : ReadsLike db scan storage)
    (same : GlueTableInfo.SameSerDe storage other) : ReadsLike db scan other := by
  obtain ⟨serde, known, format⟩ := GlueTableInfo.getFileFormat_eq_ok.mp reads.fileFormat
  refine ⟨GlueTableInfo.getFileFormat_eq_ok.mpr ⟨serde, same.getSerDe known, format⟩, ?_, ?_⟩
  · exact fun csv => (same.getCSVOptions known).symm.trans (reads.csv csv)
  · intro json
    obtain ⟨options, read, ignore, keys⟩ := reads.json json
    obtain ⟨own, ownRead⟩ := fromTable_ok (same.getSerDe known)
    have here := fromTable_options read
    have there := fromTable_options ownRead
    refine ⟨own, ownRead, ?_, ?_⟩
    · rw [there.1, ← same.ignoresErrors known, ← here.1, ignore]
    · rw [there.2, ← same.matchesKeysExactly known, ← here.2, keys]

/-- A json partition of a SerDe library of its own which, as the check reads it, reads
past the same lines as the table, but whose own SerDe properties skip other lines or
match object keys in another way. -/
def KeysForgotten (db : DuckDB) (table : GlueTableInfo) (partition : GluePartitionInfo) : Prop :=
  let checked := partitionStorage table partition
  partition.serdeLibrary ≠ [] ∧ table.getFileFormat = .ok .json ∧ checked.getFileFormat = .ok .json ∧
    checked.getFormat.isHive = true ∧ checked.checkTextSerdeSupported db .json = .ok () ∧
    checked.ignoresErrors = table.ignoresErrors ∧ ¬ GlueTableInfo.SameOpenX (ownStorage table partition) table

/-- A partition with SerDe parameters but no SerDe library, which the check does not
look at: a property the table's SerDe reads files by differs. -/
def ParametersForgotten (db : DuckDB) (table : GlueTableInfo) (partition : GluePartitionInfo) : Prop :=
  partition.serdeLibrary = [] ∧ partition.serdeParameters.entries ≠ [] ∧
    (partitionStorage table partition).getFormat.isHive = true ∧
    ∃ serde, table.getSerDe = .ok serde ∧ ¬ GlueTableInfo.SameProperties db serde (ownStorage table partition) table

/-- Without a SerDe library only the InputFormat is checked. -/
theorem partitionStorageMismatch_eq_none_of_noLibrary (bound : BoundTo db scan entry)
    (library : partition.serdeLibrary = []) : scan.partitionStorageMismatch db partition = .ok none ↔
      (partitionStorage entry.tableInfo partition).getFormat.isHive = true := by
  rw [partitionStorageMismatch_eq_none bound.table]
  have same := partitionStorage_sameSerDe library entry.tableInfo
  refine ⟨?_, fun hive => .inr ⟨hive, ?_⟩⟩
  · intro passed
    obtain named | ⟨hive, -⟩ := passed
    · exact namesTableStorage_isHive named bound.isHive
    · exact hive
  · obtain ⟨serde, known, -⟩ := GlueTableInfo.getFileFormat_eq_ok.mp bound.readsLike.fileFormat
    have reads := bound.readsLike.sameSerDe same
    refine readDifferently_eq_nil.mpr ⟨reads.fileFormat, ?_, optionsDiffer_eq_nil.mpr ⟨reads.csv, fun json => ?_⟩⟩
    · exact fun text => (same.checkTextSerdeSupported known _).symm.trans (bound.supported text)
    · obtain ⟨options, read, ignore, -⟩ := reads.json json
      exact ⟨options, read, ignore⟩

/-- A json storage reads like the scan exactly when the OpenX properties agree. -/
theorem readsLike_iff_sameOpenX {table : GlueTableInfo} (reads : ReadsLike db scan table)
    (format : scan.fileFormat = .json) (own : storage.getFileFormat = .ok .json) :
    ReadsLike db scan storage ↔ GlueTableInfo.SameOpenX storage table := by
  obtain ⟨bound, boundRead, boundIgnore, boundKeys⟩ := reads.json format
  have table_ := fromTable_options boundRead
  constructor
  · intro like
    obtain ⟨options, read, ignore, keys⟩ := like.json format
    have own_ := fromTable_options read
    constructor
    · rw [← own_.1, ignore, ← boundIgnore, table_.1]
    · rw [← Bool.not_inj_iff, ← own_.2, keys, ← boundKeys, table_.2]
  · intro same
    obtain ⟨serde, known, -⟩ := GlueTableInfo.getFileFormat_eq_ok.mp own
    obtain ⟨options, read⟩ := fromTable_ok known
    have own_ := fromTable_options read
    refine ⟨own.trans (congrArg _ format.symm), fun csv => ?_, fun _ => ⟨options, read, ?_, ?_⟩⟩
    · rw [format] at csv
      cases csv
    · rw [own_.1, same.ignoresErrors, ← table_.1, boundIgnore]
    · rw [own_.2, same.matchesKeysExactly, ← table_.2, boundKeys]

/-- A storage of the table's SerDe reads like the scan exactly when the properties
that SerDe reads files by agree. -/
theorem readsLike_iff_sameProperties {table : GlueTableInfo} {serde : HiveSerDe} (reads : ReadsLike db scan table)
    (known : table.getSerDe = .ok serde) (own : storage.getSerDe = .ok serde) :
    ReadsLike db scan storage ↔ GlueTableInfo.SameProperties db serde storage table := by
  have format : scan.fileFormat = serde.fileFormat := Except.ok.inj
    (reads.fileFormat.symm.trans (GlueTableInfo.getFileFormat_eq_ok.mpr ⟨serde, known, rfl⟩))
  have same : storage.getFileFormat = .ok serde.fileFormat :=
    GlueTableInfo.getFileFormat_eq_ok.mpr ⟨serde, own, rfl⟩
  cases serde with
  | parquet | avro =>
      refine iff_of_true ⟨format ▸ same, ?_, ?_⟩ trivial
      all_goals simp [format, HiveSerDe.fileFormat]
  | lazySimple | openCsv =>
      rw [← GlueTableInfo.getCSVOptions_eq_iff own known rfl (reads.csv format)]
      refine ⟨fun like => like.csv format, fun options => ⟨format ▸ same, fun _ => options, fun json => ?_⟩⟩
      rw [format] at json
      cases json
  | hiveJson =>
      refine iff_of_true ((readsLike_iff_sameOpenX reads format same).mpr ?_) trivial
      constructor <;> simp [GlueTableInfo.ignoresErrors, GlueTableInfo.matchesKeysExactly, known, own, Except.toOption]
  | openxJson => exact readsLike_iff_sameOpenX reads format same

theorem keysForgotten_unsound (bound : BoundTo db scan entry)
    (forgotten : KeysForgotten db entry.tableInfo partition) :
    scan.partitionStorageMismatch db partition = .ok none ∧
      ¬ ReadsLike db scan (ownStorage entry.tableInfo partition) := by
  obtain ⟨library, table, own, hive, supported, ignore, keys⟩ := forgotten
  have format : scan.fileFormat = .json := Except.ok.inj (bound.readsLike.fileFormat.symm.trans table)
  obtain ⟨options, read, boundIgnore, -⟩ := bound.readsLike.json format
  constructor
  · obtain ⟨serde, known, -⟩ := GlueTableInfo.getFileFormat_eq_ok.mp own
    obtain ⟨ownOptions, ownRead⟩ := fromTable_ok known
    refine (partitionStorageMismatch_eq_none bound.table).mpr (.inr ⟨hive, ?_⟩)
    refine readDifferently_eq_nil.mpr ⟨own.trans (congrArg _ format.symm), fun _ => ?_, ?_⟩
    · rw [format, supported]
    · refine optionsDiffer_eq_nil.mpr ⟨fun csv => by simp [format] at csv, fun _ => ⟨ownOptions, ownRead, ?_⟩⟩
      rw [(fromTable_options ownRead).1, ignore, ← (fromTable_options read).1, boundIgnore]
  · intro reads
    have json : (ownStorage entry.tableInfo partition).getFileFormat = .ok .json := own
    exact keys ((readsLike_iff_sameOpenX bound.readsLike format json).mp reads)

/-- The options of a csv storage tell which of the two SerDes it has. -/
theorem serde_of_getCSVOptions {other : GlueTableInfo} {options : HiveCSVOptions} {serde otherSerde : HiveSerDe}
    (known : storage.getSerDe = .ok serde) (otherKnown : other.getSerDe = .ok otherSerde)
    (isCsv : serde.fileFormat = .csv) (otherCsv : otherSerde.fileFormat = .csv)
    (read : storage.getCSVOptions db = .ok options) (otherRead : other.getCSVOptions db = .ok options) :
    serde = otherSerde := by
  have told : ∀ {storage : GlueTableInfo} {serde : HiveSerDe}, storage.getSerDe = .ok serde → serde.fileFormat = .csv →
      storage.getCSVOptions db = .ok options → serde = if options.falseUnlessTrue then .openCsv else .lazySimple := by
    intro storage serde known isCsv read
    cases serde with
    | parquet | avro | hiveJson | openxJson => cases isCsv
    | lazySimple =>
        obtain ⟨_, _, -, -, rfl⟩ := (GlueTableInfo.getCSVOptions_lazySimple known).mp read
        rfl
    | openCsv =>
        obtain ⟨_, -, rfl⟩ := (GlueTableInfo.getCSVOptions_openCsv known).mp read
        rfl
  rw [told known isCsv read, told otherKnown otherCsv otherRead]

/-- A partition that names the table's classes and SerDe parameters. -/
theorem ownStorage_sameSerDe {table : GlueTableInfo} (library : partition.serdeLibrary ≠ [])
    (named : namesTableStorage table partition = true) :
    GlueTableInfo.SameSerDe table (ownStorage table partition) := by
  have same := namesTableStorage_sameSerDe named
  by_cases parameters : partition.serdeParameters.entries = []
  · exact ⟨rfl, rfl, rfl, same.getSerDe, fun key => by simp [ownStorage, parameters, GlueTableInfo.tryGetProperty]⟩
  · rwa [ownStorage_eq (iff_of_false library parameters)]

/-- What a partition of a SerDe library of its own that passed is read by, unless
properties of its json SerDe are forgotten. -/
theorem readsLike_of_passed (bound : BoundTo db scan entry) (library : partition.serdeLibrary ≠ [])
    (remembered : ¬ KeysForgotten db entry.tableInfo partition)
    (passed : scan.partitionStorageMismatch db partition = .ok none) :
    ReadsLike db scan (ownStorage entry.tableInfo partition) := by
  cases (partitionStorageMismatch_eq_none bound.table).mp passed with
  | inl named => exact bound.readsLike.sameSerDe (ownStorage_sameSerDe library named)
  | inr compared =>
      obtain ⟨hive, compared⟩ := compared
      obtain ⟨format, supported, options⟩ := readDifferently_eq_nil.mp compared
      obtain ⟨csv, json⟩ := optionsDiffer_eq_nil.mp options
      have own : (ownStorage entry.tableInfo partition).getFileFormat = .ok scan.fileFormat := format
      cases isFormat : scan.fileFormat with
      | parquet | avro => exact ⟨own, by simp [isFormat], by simp [isFormat]⟩
      | csv =>
          refine ⟨own, fun _ => ?_, by simp [isFormat]⟩
          obtain ⟨serde, known, isCsv⟩ := GlueTableInfo.getFileFormat_eq_ok.mp (isFormat ▸ format)
          obtain ⟨bound_, decided, boundCsv⟩ := GlueTableInfo.getFileFormat_eq_ok.mp (isFormat ▸ bound.readsLike.fileFormat)
          by_cases parameters : partition.serdeParameters.entries = []
          · -- the table's own properties, and its SerDe, or the options would differ
            obtain rfl := serde_of_getCSVOptions known decided isCsv boundCsv (csv isFormat) (bound.readsLike.csv isFormat)
            have same : GlueTableInfo.SameSerDe entry.tableInfo (ownStorage entry.tableInfo partition) := by
              refine ⟨rfl, rfl, rfl, fun given => ?_, fun key => ?_⟩
              · cases decided.symm.trans given
                exact known
              · simp [ownStorage, parameters, GlueTableInfo.tryGetProperty]
            exact (bound.readsLike.sameSerDe same).csv isFormat
          · rw [ownStorage_eq (iff_of_false library parameters)]
            exact csv isFormat
      | json =>
          refine (readsLike_iff_sameOpenX bound.readsLike isFormat (isFormat ▸ own)).mpr ?_
          by_contra differ
          obtain ⟨read, ownRead, ignore⟩ := json isFormat
          obtain ⟨table, tableRead, tableIgnore, -⟩ := bound.readsLike.json isFormat
          have text : scan.fileFormat.isText = true := by simp [isFormat, HiveFileFormat.isText]
          refine remembered ⟨library, isFormat ▸ bound.readsLike.fileFormat, isFormat ▸ format, hive, ?_, ?_, differ⟩
          · exact isFormat ▸ supported text
          · rw [← (fromTable_options ownRead).1, ignore, ← tableIgnore, (fromTable_options tableRead).1]

/-- Every partition that passes the check has its files read by the reader of its
own storage, except where the check forgets properties of a json SerDe or SerDe
parameters without a SerDe. -/
theorem partitionStorageMismatch_sound_iff {catalogName : Text}
    (bound : entry.getScanFunction db catalogName = .ok scan) (partition : GluePartitionInfo) :
    (scan.partitionStorageMismatch db partition = .ok none →
        ReadsLike db scan (ownStorage entry.tableInfo partition)) ↔
      ¬ KeysForgotten db entry.tableInfo partition ∧
        ¬ ParametersForgotten db entry.tableInfo partition := by
  have scanned := getScanFunction_boundTo bound
  by_cases library : partition.serdeLibrary = []
  · have kept : ¬ KeysForgotten db entry.tableInfo partition := fun forgotten => forgotten.1 library
    rw [partitionStorageMismatch_eq_none_of_noLibrary scanned library, and_iff_right kept]
    by_cases parameters : partition.serdeParameters.entries = []
    · rw [ownStorage_eq (iff_of_true library parameters)]
      refine iff_of_true (fun _ => ?_) fun forgotten => forgotten.2.1 parameters
      exact scanned.readsLike.sameSerDe (partitionStorage_sameSerDe library _)
    · obtain ⟨serde, known, -⟩ := GlueTableInfo.getFileFormat_eq_ok.mp scanned.readsLike.fileFormat
      have own : (ownStorage entry.tableInfo partition).getSerDe = .ok serde :=
        (partitionStorage_sameSerDe library entry.tableInfo).getSerDe known
      rw [readsLike_iff_sameProperties scanned.readsLike known own]
      constructor
      · intro sound forgotten
        obtain ⟨-, -, hive, other, decided, differ⟩ := forgotten
        cases known.symm.trans decided
        exact differ (sound hive)
      · intro remembered hive
        by_contra differ
        exact remembered ⟨library, parameters, hive, serde, known, differ⟩
  · have kept : ¬ ParametersForgotten db entry.tableInfo partition := fun forgotten => library forgotten.1
    rw [and_iff_left kept]
    constructor
    · intro sound forgotten
      obtain ⟨passed, unlike⟩ := keysForgotten_unsound scanned forgotten
      exact unlike (sound passed)
    · exact readsLike_of_passed scanned library

end Check

section OpenXPartition

/-- A json table of the OpenX SerDe. -/
def openxTable : GlueTable where
  tableInfo := {
    name := "events"
    schemaName := "db"
    location := "s3://bucket/events"
    inputFormat := "org.apache.hadoop.mapred.TextInputFormat"
    serdeLibrary := "org.openx.data.jsonserde.JsonSerDe"
    columns := [{ name := "Id", type := "int" }]
    partitionKeys := [{ name := "day", type := "string" }] }
  columns := [("Id".toList, .integer), ("day".toList, .varchar)]

/-- A partition of it that matches object keys exactly. -/
def exactKeysPartition : GluePartitionInfo where
  values := ["1"]
  location := "s3://bucket/events/day=1"
  serdeLibrary := "org.openx.data.jsonserde.JsonSerDe"
  serdeParameters := AList.singleton "case.insensitive".toList "false".toList

/-- No property of the table or the partition is a number. -/
def noNumbers : DuckDB := ⟨fun _ => none⟩

theorem openxTable_bound : ∃ scan, openxTable.getScanFunction noNumbers "glue" = .ok scan := by
  have bound : (openxTable.getScanFunction noNumbers "glue").toBool = true := by decide +kernel
  cases scanned : openxTable.getScanFunction noNumbers "glue" with
  | ok scan => exact ⟨scan, rfl⟩
  | error exception =>
      rw [scanned] at bound
      nomatch bound

theorem exactKeysPartition_forgotten : KeysForgotten noNumbers openxTable.tableInfo exactKeysPartition := by
  have exact : (ownStorage openxTable.tableInfo exactKeysPartition).matchesKeysExactly = true ∧
      openxTable.tableInfo.matchesKeysExactly = false := by decide +kernel
  refine ⟨by decide, by decide +kernel, by decide +kernel, by decide +kernel, by decide +kernel, by decide +kernel, ?_⟩
  intro same
  have equal := same.matchesKeysExactly
  rw [exact.1, exact.2] at equal
  cases equal

/-- The partition passes the check and is read ignoring the case of its keys. -/
theorem partitionStorageMismatch_unsound :
    ¬ ∀ (db : DuckDB) (catalogName : Text) (entry : GlueTable) (scan : HiveScanInfo) (partition : GluePartitionInfo),
      entry.getScanFunction db catalogName = .ok scan →
      scan.partitionStorageMismatch db partition = .ok none →
      ReadsLike db scan (ownStorage entry.tableInfo partition) := by
  intro sound
  obtain ⟨scan, bound⟩ := openxTable_bound
  obtain ⟨passed, unlike⟩ := keysForgotten_unsound (getScanFunction_boundTo bound) exactKeysPartition_forgotten
  exact unlike (sound _ _ _ _ _ bound passed)

theorem partitionStorageMismatch_sound_openx : ∃ scan,
    openxTable.getScanFunction noNumbers "glue" = .ok scan ∧
      ((scan.partitionStorageMismatch noNumbers exactKeysPartition = .ok none →
          ReadsLike noNumbers scan (ownStorage openxTable.tableInfo exactKeysPartition)) ↔
        ¬ KeysForgotten noNumbers openxTable.tableInfo exactKeysPartition ∧
          ¬ ParametersForgotten noNumbers openxTable.tableInfo exactKeysPartition) := by
  obtain ⟨scan, bound⟩ := openxTable_bound
  exact ⟨scan, bound, partitionStorageMismatch_sound_iff bound exactKeysPartition⟩

end OpenXPartition

end HiveScanInfo

end DuckGlue
