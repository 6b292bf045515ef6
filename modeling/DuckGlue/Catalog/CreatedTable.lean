import DuckGlue.Catalog.TableVersions

/-! # What Glue stores of a created table

Which table parameters the options of a CREATE TABLE leave, and what `CreateHiveTable`
adds to them. An option of an open table format's parameters is none of CREATE TABLE's
own, so it becomes that parameter.
-/

namespace DuckGlue

open StringUtil GlueSchemaEntry Fallible

section Parameters

variable {parameters : Parameters} {key other value : Text}

theorem lookup_emplace (differs : key ≠ other) :
    AList.lookup key (Parameters.emplace parameters other value) = AList.lookup key parameters := by
  unfold Parameters.emplace
  split_ifs
  · rfl
  · exact AList.lookup_insert_ne differs

theorem inAnyCase_emplace (differs : ciEquals other key = false) :
    Parameters.inAnyCase (parameters.emplace other value) key = parameters.inAnyCase key := by
  unfold Parameters.emplace
  split_ifs
  · rfl
  · exact inAnyCase_insert differs

/-- The key inserted last is the one found. -/
theorem inAnyCase_insert_same (same : ciEquals other key = true) :
    Parameters.inAnyCase (parameters.insert other value) key = some value := by
  unfold Parameters.inAnyCase
  change (List.find? _ (⟨other, value⟩ :: List.kerase other parameters.entries)).map _ = _
  rw [List.find?_cons, same]
  rfl

end Parameters

namespace GlueSchemaEntry

/-- An option CREATE TABLE has a use for, or refuses. -/
def isCreateTableOption (key : Text) : Bool :=
  ciEquals key "type" || ciEquals key "format" || ciEquals key "location" || ciEquals key "comment" ||
    ciEquals key "delimiter" || ciEquals key "quote" || ciEquals key "escape" || ciEquals key "overwrite" ||
    ciEquals key "header" || isBucketingOption key || bucketingOptionFor key ≠ [] || otherEngineOptionFor key ≠ []

theorem parseOption_parameter {bucketedTables : Bool} {result : GlueCreateTableOptions} {key : Text} {value : OptionValue}
    (none : isCreateTableOption key = false) :
    parseOption bucketedTables result (key, value) =
      .ok { result with parameters := result.parameters.insert key value.scalar.text } := by
  simp only [isCreateTableOption, Bool.or_eq_false_iff, decide_eq_false_iff_not, ne_eq, not_not] at none
  obtain ⟨⟨⟨⟨⟨⟨⟨⟨⟨⟨⟨h1, h2⟩, h3⟩, h4⟩, h5⟩, h6⟩, h7⟩, h8⟩, h9⟩, h10⟩, h11⟩, h12⟩ := none
  unfold parseOption
  simp only [h1, h2, h3, h4, h5, h6, h7, h8, h9, h10, h11, h12]
  rfl

/-- What an option makes of the ones before it. -/
inductive OptionMade (result : GlueCreateTableOptions) (key : Text) (value : OptionValue) : GlueCreateTableOptions → Prop where
  | unchanged : OptionMade result key value result
  | format (format : HiveFileFormat) : OptionMade result key value { result with format }
  | location : OptionMade result key value { result with location := rtrim value.scalar.text '/' }
  | comment : OptionMade result key value { result with description := value.scalar.text }
  | delimiter : OptionMade result key value { result with csvDelimiter := value.scalar.text }
  | quote : OptionMade result key value { result with csvQuote := value.scalar.text }
  | escape : OptionMade result key value { result with csvEscape := value.scalar.text }
  | overwrite (overwrite : Bool) : OptionMade result key value { result with overwrite }
  | header : OptionMade result key value
      { result with parameters := result.parameters.insert "skip.header.line.count".toList "1".toList }
  | bucketColumns (bucketing : isBucketingOption key = true) (bucketColumns : List Text) :
      OptionMade result key value { result with bucketColumns }
  | numberOfBuckets (bucketing : isBucketingOption key = true) (numberOfBuckets : Int) :
      OptionMade result key value { result with numberOfBuckets }
  | sortColumns (bucketing : isBucketingOption key = true) (sortColumns : List GlueColumn) :
      OptionMade result key value { result with sortColumns }
  | parameter (other : isCreateTableOption key = false) :
      OptionMade result key value { result with parameters := result.parameters.insert key value.scalar.text }

theorem parseOption_made {bucketedTables : Bool} {result result' : GlueCreateTableOptions} {key : Text}
    {value : OptionValue} (parsed : parseOption bucketedTables result (key, value) = .ok result') :
    OptionMade result key value result' := by
  cases own : isCreateTableOption key with
  | false =>
      cases (parseOption_parameter own).symm.trans parsed
      exact .parameter own
  | true =>
      unfold parseOption at parsed
      dsimp only at parsed
      by_cases type : ciEquals key "type" = true
      · rw [if_pos type] at parsed
        simp only [guard_throw_eq_ok, pure_eq_ok] at parsed
        rw [← parsed.2]
        exact .unchanged
      rw [if_neg type] at parsed
      by_cases format : ciEquals key "format" = true
      · rw [if_pos format] at parsed
        simp only [bind_eq_ok, pure_eq_ok] at parsed
        obtain ⟨given, _, rfl⟩ := parsed
        exact .format given
      rw [if_neg format] at parsed
      by_cases location : ciEquals key "location" = true
      · rw [if_pos location] at parsed
        cases parsed
        exact .location
      rw [if_neg location] at parsed
      by_cases comment : ciEquals key "comment" = true
      · rw [if_pos comment] at parsed
        cases parsed
        exact .comment
      rw [if_neg comment] at parsed
      by_cases character : (ciEquals key "delimiter" || ciEquals key "quote" || ciEquals key "escape") = true
      · rw [if_pos character] at parsed
        simp only [guard_throw_eq_ok] at parsed
        obtain ⟨_, parsed⟩ := parsed
        split_ifs at parsed
        · cases parsed
          exact .delimiter
        · cases parsed
          exact .quote
        · cases parsed
          exact .escape
      rw [if_neg character] at parsed
      by_cases overwrite : ciEquals key "overwrite" = true
      · rw [if_pos overwrite] at parsed
        simp only [bind_eq_ok, pure_eq_ok] at parsed
        obtain ⟨given, _, rfl⟩ := parsed
        exact .overwrite given
      rw [if_neg overwrite] at parsed
      by_cases header : ciEquals key "header" = true
      · rw [if_pos header] at parsed
        simp only [bind_eq_ok] at parsed
        obtain ⟨given, _, parsed⟩ := parsed
        split_ifs at parsed
        · cases parsed
          exact .header
        · cases parsed
          exact .unchanged
      rw [if_neg header] at parsed
      by_cases bucketing : isBucketingOption key = true
      · rw [if_pos bucketing] at parsed
        simp only [bind_eq_ok, exists_unit_ok] at parsed
        obtain ⟨_, parsed⟩ := parsed
        split_ifs at parsed <;> simp only [bind_eq_ok, pure_eq_ok] at parsed <;> obtain ⟨given, _, rfl⟩ := parsed
        · exact .bucketColumns bucketing given
        · exact .numberOfBuckets bucketing given
        · exact .sortColumns bucketing given
      rw [if_neg bucketing] at parsed
      by_cases bucketed : bucketingOptionFor key ≠ []
      · simp only [if_pos bucketed, throw_ne_ok] at parsed
      rw [if_neg bucketed] at parsed
      by_cases other : otherEngineOptionFor key ≠ []
      · simp only [if_pos other, throw_ne_ok] at parsed
      rw [Bool.not_eq_true] at type format location comment character overwrite header bucketing
      simp only [Bool.or_eq_false_iff] at character
      obtain ⟨⟨delimiter, quote⟩, escape⟩ := character
      rw [isCreateTableOption, type, format, location, comment, delimiter, quote, escape, overwrite, header, bucketing,
        decide_eq_false bucketed, decide_eq_false other] at own
      cases own

theorem isCreateTableOption_congr {a b : Text} (same : ciEquals a b = true) :
    isCreateTableOption a = isCreateTableOption b := by
  have folded := ciEquals_iff.mp same
  have left : ∀ key, ciEquals a key = ciEquals b key := by
    intro key
    simp only [ciEquals, folded]
  have right : ∀ key, ciEquals key a = ciEquals key b := by
    intro key
    simp only [ciEquals, folded]
  have bucketing : bucketingOptionFor a = bucketingOptionFor b := by
    simp only [bucketingOptionFor, lookupSpelling, right]
  have engine : otherEngineOptionFor a = otherEngineOptionFor b := by
    simp only [otherEngineOptionFor, lookupSpelling, right]
  simp only [isCreateTableOption, isBucketingOption, left, bucketing, engine]

/-- An option of another name leaves a parameter alone. -/
theorem parseOption_other {bucketedTables : Bool} {result result' : GlueCreateTableOptions} {option : Text × OptionValue}
    {key : Text} (differs : ciEquals option.1 key = false) (notHeader : ciEquals "skip.header.line.count" key = false)
    (parsed : parseOption bucketedTables result option = .ok result') :
    result'.parameters.inAnyCase key = result.parameters.inAnyCase key := by
  cases parseOption_made parsed with
  | header => exact inAnyCase_insert notHeader
  | parameter => exact inAnyCase_insert differs
  | _ => rfl

theorem evaluateOptions_ok {options : List (Text × Option OptionValue)} {statement : Text}
    {evaluated : List (Text × OptionValue)} (passed : evaluateOptions options statement = .ok evaluated) :
    options = evaluated.map fun option => (option.1, some option.2) := by
  unfold evaluateOptions at passed
  induction mapM_eq_ok.mp passed with
  | nil => rfl
  | @cons option _ _ _ here rest ih =>
      obtain ⟨key, value⟩ := option
      cases value with
      | none => cases here
      | some value =>
          cases here
          rw [List.map_cons, ← ih (mapM_eq_ok.mpr rest)]

/-- The text of an option, its name in any case. -/
def optionText (options : List (Text × Option OptionValue)) (key : Text) : Option Text :=
  (options.find? fun option => ciEquals option.1 key).bind fun option => option.2.map (·.scalar.text)

theorem optionText_evaluated {evaluated : List (Text × OptionValue)} {key : Text} :
    optionText (evaluated.map fun option => (option.1, some option.2)) key =
      (evaluated.find? fun option => ciEquals option.1 key).map (·.2.scalar.text) := by
  unfold optionText
  induction evaluated with
  | nil => rfl
  | cons option evaluated ih =>
      rw [List.map_cons, List.find?_cons, List.find?_cons]
      cases ciEquals option.1 key with
      | true => rfl
      | false => exact ih

/-- No other option has the name of one that is found. -/
theorem find?_of_distinct {evaluated : List (Text × OptionValue)} {option : Text × OptionValue} {key : Text}
    (distinct : ∀ other ∈ evaluated, ciEquals option.1 other.1 = false) (same : ciEquals option.1 key = true) :
    evaluated.find? (fun other => ciEquals other.1 key) = none := by
  rw [List.find?_eq_none]
  intro other member also
  have differs := distinct other member
  rw [ciEquals_iff.mp same |>.trans (ciEquals_iff.mp also).symm |> ciEquals_iff.mpr] at differs
  cases differs

/-- An option that is none of CREATE TABLE's own is the table parameter of that name. -/
theorem parseCreateTableOptions_inAnyCase {bucketedTables : Bool} {options : List (Text × Option OptionValue)}
    {parsed : GlueCreateTableOptions} {key : Text} (distinct : options.Pairwise fun a b => ciEquals a.1 b.1 = false)
    (foreign : isCreateTableOption key = false) (notHeader : ciEquals "skip.header.line.count" key = false)
    (parses : parseCreateTableOptions bucketedTables options = .ok parsed) :
    parsed.parameters.inAnyCase key = optionText options key := by
  simp only [parseCreateTableOptions, bind_eq_ok] at parses
  obtain ⟨evaluated, values, parses⟩ := parses
  rw [evaluateOptions_ok values] at distinct ⊢
  have folded : ∀ initial : GlueCreateTableOptions, evaluated.foldlM (parseOption bucketedTables) initial = .ok parsed →
      parsed.parameters.inAnyCase key =
        ((evaluated.find? fun option => ciEquals option.1 key).map (·.2.scalar.text) <|>
          initial.parameters.inAnyCase key) := by
    clear parses values
    induction evaluated with
    | nil =>
        intro initial parses
        cases parses
        rfl
    | cons option evaluated ih =>
        intro initial parses
        rw [List.map_cons, List.pairwise_cons] at distinct
        rw [List.foldlM_cons, bind_eq_ok] at parses
        obtain ⟨next, first, rest⟩ := parses
        rw [ih distinct.2 next rest, List.find?_cons]
        cases same : ciEquals option.1 key with
        | true =>
            have later := find?_of_distinct (fun other member => distinct.1 _ (List.mem_map_of_mem member)) same
            have own : isCreateTableOption option.1 = false := (isCreateTableOption_congr same).trans foreign
            cases (parseOption_parameter own).symm.trans first
            rw [later]
            exact inAnyCase_insert_same same
        | false =>
            rw [parseOption_other same notHeader first]
  have none : ({} : GlueCreateTableOptions).parameters.inAnyCase key = none := rfl
  rw [folded {} parses, optionText_evaluated, none]
  cases evaluated.find? fun option => ciEquals option.1 key <;> rfl

theorem parseCreateTableOptions_bucketColumns {bucketedTables : Bool} {options : List (Text × Option OptionValue)}
    {parsed : GlueCreateTableOptions} (none : ∀ option ∈ options, isBucketingOption option.1 = false)
    (parses : parseCreateTableOptions bucketedTables options = .ok parsed) : parsed.bucketColumns = [] := by
  simp only [parseCreateTableOptions, bind_eq_ok] at parses
  obtain ⟨evaluated, values, parses⟩ := parses
  rw [evaluateOptions_ok values] at none
  have folded : ∀ initial : GlueCreateTableOptions, evaluated.foldlM (parseOption bucketedTables) initial = .ok parsed →
      parsed.bucketColumns = initial.bucketColumns := by
    clear parses values
    induction evaluated with
    | nil =>
        intro initial parses
        cases parses
        rfl
    | cons option evaluated ih =>
        intro initial parses
        rw [List.map_cons, List.forall_mem_cons] at none
        rw [List.foldlM_cons, bind_eq_ok] at parses
        obtain ⟨next, first, rest⟩ := parses
        rw [ih none.2 next rest]
        cases parseOption_made first with
        | bucketColumns bucketing => cases none.1.symm.trans bucketing
        | _ => rfl
  exact folded {} parses

end GlueSchemaEntry

namespace GlueAPI

/-- The keys `CreateHiveTable` adds when they are not there. -/
def createdKeys : List Text := ["classification", "delimiter", "EXTERNAL", "comment"]

variable {table stored : GlueTableInfo} {parameters : Parameters}

/-- The parameters that are there stay, and only those keys are added. -/
theorem createdParameters_ok (created : createdParameters table = .ok parameters) :
    ∃ added : List (Text × Text), parameters = added.foldl (fun parameters entry => parameters.emplace entry.1 entry.2)
      table.parameters ∧ ∀ entry ∈ added, entry.1 ∈ createdKeys := by
  have commented : ∀ external : Parameters, ∃ added : List (Text × Text),
      (if table.description = [] then external else external.emplace "comment" table.description) =
        added.foldl (fun parameters entry => parameters.emplace entry.1 entry.2) external ∧
      ∀ entry ∈ added, entry.1 ∈ createdKeys := by
    intro external
    split_ifs
    · exact ⟨[], rfl, by simp⟩
    · exact ⟨[("comment".toList, table.description)], rfl, by simp [createdKeys]⟩
  unfold createdParameters at created
  dsimp only at created
  cases csv : decide (table.fileFormat = .csv) with
  | true =>
      rw [if_pos (of_decide_eq_true csv)] at created
      simp only [bind_eq_ok] at created
      obtain ⟨serde, _, delimited⟩ := created
      split at delimited
      · rename_i delimiter _
        simp only [bind_eq_ok, pure_eq_ok] at delimited
        obtain ⟨_, rfl, rfl⟩ := delimited
        obtain ⟨added, same, keys⟩ := commented ((Parameters.emplace (table.parameters.emplace "classification"
          table.fileFormat.toText) "delimiter" delimiter).emplace "EXTERNAL" "TRUE")
        refine ⟨("classification".toList, table.fileFormat.toText) :: ("delimiter".toList, delimiter) ::
          ("EXTERNAL".toList, "TRUE".toList) :: added, same, ?_⟩
        simpa [createdKeys] using keys
      · simp only [bind_eq_ok, throw_ne_ok, false_and, exists_false] at delimited
  | false =>
      rw [if_neg (of_decide_eq_false csv)] at created
      simp only [pure_eq_ok, bind_eq_ok] at created
      obtain ⟨_, rfl, rfl⟩ := created
      obtain ⟨added, same, keys⟩ := commented ((Parameters.emplace table.parameters "classification"
        table.fileFormat.toText).emplace "EXTERNAL" "TRUE")
      refine ⟨("classification".toList, table.fileFormat.toText) :: ("EXTERNAL".toList, "TRUE".toList) :: added,
        same, ?_⟩
      simpa [createdKeys] using keys

theorem lookup_createdParameters (created : createdParameters table = .ok parameters) {key : Text}
    (notCreated : key ∉ createdKeys) : parameters.lookup key = table.parameters.lookup key := by
  obtain ⟨added, rfl, keys⟩ := createdParameters_ok created
  clear created
  generalize table.parameters = initial
  induction added generalizing initial with
  | nil => rfl
  | cons entry added ih =>
      rw [List.foldl_cons, ih fun other member => keys other (List.mem_cons_of_mem _ member)]
      apply lookup_emplace
      intro same
      rw [same] at notCreated
      exact notCreated (keys entry List.mem_cons_self)

theorem inAnyCase_createdParameters (created : createdParameters table = .ok parameters) {key : Text}
    (notCreated : ∀ other ∈ createdKeys, ciEquals other key = false) :
    parameters.inAnyCase key = table.parameters.inAnyCase key := by
  obtain ⟨added, rfl, keys⟩ := createdParameters_ok created
  clear created
  generalize table.parameters = initial
  induction added generalizing initial with
  | nil => rfl
  | cons entry added ih =>
      rw [List.foldl_cons, ih fun other member => keys other (List.mem_cons_of_mem _ member)]
      exact inAnyCase_emplace (notCreated entry.1 (keys entry List.mem_cons_self))

/-- What a created table has of the one it was planned as. -/
structure Created (table stored : GlueTableInfo) : Prop where
  name : stored.name = table.name
  schemaName : stored.schemaName = table.schemaName
  located : table.location ≠ []
  location : stored.location = table.location
  description : stored.description = table.description
  storage : (stored.serdeLibrary, stored.serdeParameters, stored.inputFormat) = storageOf table
  parameters : createdParameters table = .ok stored.parameters
  columns : stored.columns = table.columns
  partitionKeys : stored.partitionKeys = table.partitionKeys
  bucketColumns : stored.bucketColumns = table.bucketColumns
  numberOfBuckets : stored.numberOfBuckets = table.numberOfBuckets
  sortColumns : stored.sortColumns = table.sortColumns.map fun column =>
    { name := column.name, sortOrder := if column.sortOrder = .descending then .descending else .ascending }

theorem createHiveTable_ok {versionId : Text} {createTimeMs : Int}
    (made : createHiveTable table versionId createTimeMs = .ok stored) : Created table stored := by
  unfold createHiveTable at made
  simp only [guard_throw_eq_ok, pure_eq_ok, bind_eq_ok] at made
  obtain ⟨located, parameters, created, rfl⟩ := made
  exact ⟨rfl, rfl, located, rfl, rfl, rfl, created, rfl, rfl, rfl, rfl, rfl⟩

end GlueAPI

end DuckGlue
