import DuckGlue.Core.GlueTypePrinting

/-! # Type changes a reader follows

Each change of a column's type is decided by itself; a partition's own column is read as
the table's after all of them.
-/

namespace DuckGlue

open StringUtil GlueTypeParser Parsing

namespace LogicalType

variable {a b c : LogicalType}

theorem eq_of_same (same : a.same b = true) (plain : a.isNested = false) : a = b := by
  cases a with
  | list => cases plain
  | map => cases plain
  | struct => cases plain
  | decimal width scale =>
      cases b with
      | decimal width' scale' =>
          simp only [LogicalType.same, Bool.and_eq_true, decide_eq_true_eq] at same
          rw [same.1, same.2]
      | _ => cases same
  | unsupported name =>
      cases b with
      | unsupported name' =>
          simp only [LogicalType.same, decide_eq_true_eq] at same
          rw [same]
      | _ => cases same
  | _ =>
      cases b with
      | _ => first | rfl | cases same

theorem same_refl (plain : a.isNested = false) : a.same a = true := by
  cases a with
  | list => cases plain
  | map => cases plain
  | struct => cases plain
  | decimal width scale => simp [LogicalType.same]
  | unsupported name => simp [LogicalType.same]
  | _ => rfl

theorem exists_of_same_list (same : (list a).same b = true) : ∃ child, b = .list child ∧ a.same child = true := by
  cases b with
  | list child =>
      rw [LogicalType.same] at same
      exact ⟨child, rfl, same⟩
  | _ => cases same

theorem exists_of_same_map {key value : LogicalType} (same : (map key value).same b = true) :
    ∃ key' value', b = .map key' value' ∧ key.same key' = true ∧ value.same value' = true := by
  cases b with
  | map key' value' =>
      rw [LogicalType.same, Bool.and_eq_true] at same
      exact ⟨key', value', rfl, same⟩
  | _ => cases same

theorem exists_of_same_struct {fields : List (Text × LogicalType)} (same : (struct fields).same b = true) :
    ∃ fields', b = .struct fields' ∧ sameFields fields fields' = true := by
  cases b with
  | struct fields' =>
      rw [LogicalType.same] at same
      exact ⟨fields', rfl, same⟩
  | _ => cases same

theorem isNested_of_same (same : a.same b = true) : b.isNested = a.isNested := by
  cases nested : a.isNested with
  | false =>
      rw [← eq_of_same same nested]
      exact nested
  | true =>
      cases a with
      | list child =>
          obtain ⟨_, rfl, -⟩ := exists_of_same_list same
          rfl
      | map key value =>
          obtain ⟨_, _, rfl, -⟩ := exists_of_same_map same
          rfl
      | struct fields =>
          obtain ⟨_, rfl, -⟩ := exists_of_same_struct same
          rfl
      | _ => cases nested

theorem same_iff (plain : b.isNested = false) : a.same b = true ↔ a = b := by
  constructor
  · intro same
    exact eq_of_same same ((isNested_of_same same).symm.trans plain)
  · rintro rfl
    exact same_refl plain

mutual

/-- What is the same as a type with such decimals has such decimals. -/
theorem valid_of_same (a : LogicalType) {b : LogicalType} (valid : a.Valid) (same : a.same b = true) : b.Valid := by
  by_cases plain : a.isNested = false
  · rw [← eq_of_same same plain]
    exact valid
  match a with
  | .list child =>
      obtain ⟨_, rfl, childSame⟩ := exists_of_same_list same
      have childValid := valid_of_same child valid childSame
      exact childValid
  | .map key value =>
      obtain ⟨_, _, rfl, keySame, valueSame⟩ := exists_of_same_map same
      exact ⟨valid_of_same key valid.1 keySame, valid_of_same value valid.2 valueSame⟩
  | .struct fields =>
      obtain ⟨_, rfl, fieldsSame⟩ := exists_of_same_struct same
      exact validFields_of_same fields valid fieldsSame
  | .boolean | .tinyint | .smallint | .integer | .bigint | .float | .double | .decimal _ _ => exact absurd rfl plain
  | .varchar | .blob | .date | .time | .timestamp | .timestampTz | .uuid | .variant => exact absurd rfl plain
  | .utinyint | .usmallint | .uinteger | .unsupported _ => exact absurd rfl plain
termination_by sizeOf a

theorem validFields_of_same (fields : List (Text × LogicalType)) {fields' : List (Text × LogicalType)}
    (valid : ValidFields fields) (same : sameFields fields fields' = true) : ValidFields fields' := by
  match fields, fields' with
  | [], [] => trivial
  | [], _ :: _ => cases same
  | _ :: _, [] => cases same
  | (_, type) :: fields, (_, type') :: fields' =>
      rw [sameFields, Bool.and_eq_true, Bool.and_eq_true] at same
      exact ⟨valid_of_same type valid.1 same.1.2, validFields_of_same fields valid.2 same.2⟩
termination_by sizeOf fields

end

theorem isNested_canonical (nested : a.isNested = true) (form : a.canonical = some b) : b.isNested = true := by
  cases a with
  | list child =>
      rw [canonical, Option.map_eq_some_iff] at form
      obtain ⟨_, -, rfl⟩ := form
      rfl
  | map key value =>
      rw [canonical] at form
      obtain ⟨_, -, rest⟩ := Option.bind_eq_some_iff.mp form
      obtain ⟨_, -, last⟩ := Option.bind_eq_some_iff.mp rest
      cases last
      rfl
  | struct fields =>
      cases fields with
      | nil => cases form
      | cons field fields =>
          rw [canonical, Option.map_eq_some_iff] at form
          obtain ⟨_, -, rfl⟩ := form
          rfl
  | _ => cases nested

end LogicalType

/-- A type known by its name alone has no parts and is kept. -/
theorem GlueTypeParser.leafTypes_plainType {name : Text} {type : LogicalType} (known : leafTypes.lookup name = some type) :
    type.Valid ∧ type.isNested = false ∧ type.canonical = some type := by
  have plain : ∀ leaf ∈ leafTypes, leaf.2.Valid ∧ leaf.2.isNested = false ∧ leaf.2.canonical = some leaf.2 := by
    simp only [leafTypes, List.forall_mem_cons, LogicalType.Valid, LogicalType.isNested, LogicalType.canonical,
      List.not_mem_nil, false_imp_iff, implies_true, and_true]
  exact plain (name, type) (mem_leafTypes known)

namespace GlueTypes

open LogicalType

/-- A type can become another: a nested one stays nested or becomes a string. -/
def Widens (a b : LogicalType) : Prop :=
  if a.isNested then b.isNested = true ∨ b = .varchar else isAllowedHiveTypeChange a b = true

variable {a b c : LogicalType}

theorem ranked_cases (ranked : 0 < integerRank a) : a = .tinyint ∨ a = .smallint ∨ a = .integer ∨ a = .bigint := by
  cases a with
  | tinyint => exact .inl rfl
  | smallint => exact .inr (.inl rfl)
  | integer => exact .inr (.inr (.inl rfl))
  | bigint => exact .inr (.inr (.inr rfl))
  | _ => exact absurd ranked (Nat.lt_irrefl 0)

theorem isAllowedHiveTypeChange_iff : isAllowedHiveTypeChange a b = true ↔
    a.same b = true ∨ (0 < integerRank a ∧ integerRank a < integerRank b) ∨ (a = .float ∧ b = .double) ∨ b = .varchar := by
  unfold isAllowedHiveTypeChange
  by_cases same : a.same b = true
  · simp only [same, if_true, true_or]
  rw [if_neg same]
  by_cases ranked : (decide (integerRank a > 0) && decide (integerRank b > 0)) = true
  · rw [if_pos ranked, decide_eq_true_eq]
    simp only [Bool.and_eq_true, decide_eq_true_eq] at ranked
    constructor
    · intro greater
      exact .inr (.inl ⟨ranked.1, greater⟩)
    · rintro (same' | ⟨-, greater⟩ | ⟨rfl, -⟩ | rfl)
      · exact absurd same' same
      · exact greater
      · exact absurd ranked.1 (Nat.lt_irrefl 0)
      · exact absurd ranked.2 (Nat.lt_irrefl 0)
  · rw [if_neg ranked, Bool.or_eq_true, Bool.and_eq_true, same_iff rfl, same_iff rfl, same_iff rfl]
    simp only [Bool.and_eq_true, decide_eq_true_eq] at ranked
    constructor
    · intro allowed
      exact .inr (.inr allowed)
    · rintro (same' | ⟨positive, greater⟩ | allowed)
      · exact absurd same' same
      · exact absurd ⟨positive, by omega⟩ ranked
      · exact allowed

theorem allowed_valid (valid : a.Valid) (allowed : isAllowedHiveTypeChange a b = true) : b.Valid := by
  rcases isAllowedHiveTypeChange_iff.mp allowed with same | ⟨positive, greater⟩ | ⟨-, rfl⟩ | rfl
  · exact valid_of_same a valid same
  · rcases @ranked_cases b (by omega) with rfl | rfl | rfl | rfl <;> trivial
  · trivial
  · trivial

theorem widens_of_allowed (allowed : isAllowedHiveTypeChange a b = true) : Widens a b := by
  unfold Widens
  cases nested : a.isNested with
  | false => simpa using allowed
  | true =>
      rcases isAllowedHiveTypeChange_iff.mp allowed with same | ⟨positive, -⟩ | ⟨rfl, -⟩ | rfl
      · exact .inl ((isNested_of_same same).trans nested)
      · rcases ranked_cases positive with rfl | rfl | rfl | rfl <;> cases nested
      · cases nested
      · exact .inr rfl

theorem Widens.refl (a : LogicalType) : Widens a a := by
  unfold Widens
  cases nested : a.isNested with
  | false => simpa using isAllowedHiveTypeChange_iff.mpr (.inl (same_refl nested))
  | true => exact .inl rfl

/-- Changes that are allowed one after another. -/
theorem Widens.trans (first : Widens a b) (second : Widens b c) : Widens a c := by
  unfold Widens at first second ⊢
  cases nested : a.isNested with
  | true =>
      simp only [nested, if_true] at first ⊢
      rcases first with still | rfl
      · simpa only [still, if_true] using second
      · right
        rcases isAllowedHiveTypeChange_iff.mp second with same | ⟨positive, -⟩ | ⟨impossible, -⟩ | here
        · exact (eq_of_same same rfl).symm
        · exact absurd positive (Nat.lt_irrefl 0)
        · cases impossible
        · exact here
  | false =>
      simp only [nested, Bool.false_eq_true, if_false] at first ⊢
      have plain : b.isNested = false := by
        rcases isAllowedHiveTypeChange_iff.mp first with same | ⟨positive, greater⟩ | ⟨-, rfl⟩ | rfl
        · exact (isNested_of_same same).trans nested
        · rcases @ranked_cases b (by omega) with rfl | rfl | rfl | rfl <;> rfl
        · rfl
        · rfl
      simp only [plain, Bool.false_eq_true, if_false] at second
      rw [isAllowedHiveTypeChange_iff] at first second ⊢
      rcases first with same | ⟨positive, greater⟩ | ⟨rfl, rfl⟩ | rfl
      · rwa [eq_of_same same nested]
      · rcases second with same | ⟨_, higher⟩ | ⟨rfl, -⟩ | here
        · rw [← eq_of_same same plain]
          exact .inr (.inl ⟨positive, greater⟩)
        · exact .inr (.inl ⟨positive, by omega⟩)
        · exact absurd greater (Nat.not_lt_zero _)
        · exact .inr (.inr (.inr here))
      · rcases second with same | ⟨impossible, -⟩ | ⟨impossible, -⟩ | here
        · exact .inr (.inr (.inl ⟨rfl, (eq_of_same same rfl).symm⟩))
        · exact absurd impossible (Nat.lt_irrefl 0)
        · cases impossible
        · exact .inr (.inr (.inr here))
      · rcases second with same | ⟨impossible, -⟩ | ⟨impossible, -⟩ | here
        · exact .inr (.inr (.inr (eq_of_same same rfl).symm))
        · exact absurd impossible (Nat.lt_irrefl 0)
        · cases impossible
        · exact .inr (.inr (.inr here))

/-- What a type became can still be read as. -/
theorem Widens.canRead {Value : Type} (widens : Widens a b) (casts : ValueCasts Value) :
    canReadPartitionTypeAs casts a b = true := by
  unfold Widens at widens
  unfold canReadPartitionTypeAs
  cases nested : a.isNested with
  | true => simp only [Bool.true_or]
  | false =>
      simp only [nested, Bool.false_eq_true, if_false] at widens
      simp only [widens, Bool.or_true, Bool.true_or]

/-- The type that is stored for an allowed change. -/
theorem Widens.canonical {form : LogicalType} (widens : Widens a b) (read : a.isNested = false → a.canonical = some a)
    (stored : b.canonical = some form) : Widens a form := by
  cases nested : a.isNested with
  | true =>
      unfold Widens at widens ⊢
      simp only [nested, if_true] at widens ⊢
      rcases widens with still | rfl
      · exact .inl (isNested_canonical still stored)
      · cases stored
        exact .inr rfl
  | false =>
      have fixed : b.canonical = some b := by
        unfold Widens at widens
        simp only [nested, Bool.false_eq_true, if_false] at widens
        rcases isAllowedHiveTypeChange_iff.mp widens with same | ⟨positive, greater⟩ | ⟨-, rfl⟩ | rfl
        · rw [← eq_of_same same nested]
          exact read nested
        · rcases @ranked_cases b (by omega) with rfl | rfl | rfl | rfl <;> rfl
        · rfl
        · rfl
      rw [fixed] at stored
      cases stored
      exact widens

end GlueTypes

mutual

/-- The decimals that are read are in bounds. -/
theorem TypeSyntax.valid_type (type : TypeSyntax) (wf : type.WellFormed) : type.type.Valid := by
  cases type with
  | leaf spaces name =>
      obtain ⟨type, known⟩ := Option.isSome_iff_exists.mp wf.2
      rw [TypeSyntax.type, known]
      exact (leafTypes_plainType known).1
  | decimal spaces name arguments =>
      cases arguments with
      | none => exact ⟨by decide, by decide, by decide⟩
      | some given => exact (wf.2.2 given rfl).bounds
  | characters spaces name length => trivial
  | array spaces name opens child closes => exact child.valid_type wf.2.2.2.1
  | map spaces name opens key comma value closes =>
      exact ⟨key.valid_type wf.2.2.2.1, value.valid_type wf.2.2.2.2.2.1⟩
  | struct spaces name opens fields closes => exact fields.valid_types wf.2.2.2.1
termination_by sizeOf type

theorem FieldsSyntax.valid_types (fields : FieldsSyntax) (wf : fields.WellFormed) :
    LogicalType.ValidFields fields.types := by
  cases fields with
  | last field type => exact ⟨type.valid_type wf.2, trivial⟩
  | cons field type comma rest => exact ⟨type.valid_type wf.2.1, rest.valid_types wf.2.2.2⟩
termination_by sizeOf fields

end

namespace GlueTypes

variable {text stored : Text} {source target type : LogicalType} {typeName : LogicalType → Text}

theorem valid_of_read (read : toLogicalType text = .ok type) : type.Valid := by
  obtain ⟨t, reads, -⟩ := toLogicalType_ok.mp read
  obtain ⟨spelled, wf, -, rfl, -⟩ := (exists_spelled _).1 _ _ _ reads
  exact spelled.valid_type wf

/-- A type of one name is kept as it is. -/
theorem canonical_of_read (read : toLogicalType text = .ok type) (plain : type.isNested = false) :
    type.canonical = some type := by
  obtain ⟨t, reads, -⟩ := toLogicalType_ok.mp read
  obtain ⟨spelled, wf, -, rfl, -⟩ := (exists_spelled _).1 _ _ _ reads
  cases spelled with
  | leaf spaces name =>
      obtain ⟨leaf, known⟩ := Option.isSome_iff_exists.mp wf.2
      rw [TypeSyntax.type, known]
      exact (leafTypes_plainType known).2.2
  | decimal spaces name arguments => cases arguments <;> rfl
  | characters => rfl
  | array => cases plain
  | map => cases plain
  | struct => cases plain

/-- The type an allowed change stores is one the column can become. -/
theorem widens_of_stored (read : toLogicalType text = .ok source) (allowed : isAllowedHiveTypeChange source target = true)
    (printed : fromLogicalType typeName target = .ok stored) : ∃ form, toLogicalType stored = .ok form ∧ Widens source form := by
  obtain ⟨form, canonical, reads⟩ := reads_printed (allowed_valid (valid_of_read read) allowed) printed
  exact ⟨form, reads, (widens_of_allowed allowed).canonical (canonical_of_read read) canonical⟩

end GlueTypes

section LowerCase

variable {input input' s u t name : Text} {c : Char} {type : LogicalType}

namespace GlueTypeParser

/-- A text without letters. -/
theorem lower_of_small (small : ∀ c ∈ s, c.toNat < 65) : lower s = s := by
  have same : ∀ c ∈ s, c.toLower = id c := by
    intro c member
    rcases toLower_cases c with same | ⟨low, -, -⟩
    · exact same
    · have below := small c member
      omega
  exact (List.map_congr_left same).trans (List.map_id s)

theorem toNat_of_isDigit (digit : c.isDigit = true) : c.toNat < 65 := by
  simp only [Char.isDigit, Bool.and_eq_true, decide_eq_true_eq] at digit
  have high : c.toNat ≤ 57 := by simpa [UInt32.le_iff_toNat_le] using digit.2
  omega

theorem toNat_of_isSpace (space : isSpace c = true) : c.toNat < 65 := by
  simp only [isSpace, Bool.or_eq_true, Bool.and_eq_true, decide_eq_true_eq] at space
  rcases space with rfl | range
  · decide
  · omega

theorem number_small {number : NumberSyntax} (wf : number.WellFormed) : ∀ c ∈ number.text, c.toNat < 65 := by
  intro c member
  rcases List.mem_append.mp member with space | digit
  · exact toNat_of_isSpace (wf.spaces c space)
  · exact toNat_of_isDigit (wf.digits c digit)

theorem arguments_small {arguments : DecimalSyntax} (wf : arguments.WellFormed) :
    ∀ c ∈ arguments.text, c.toNat < 65 := by
  have scale : ∀ c ∈ DecimalSyntax.scaleText arguments.scale, c.toNat < 65 := by
    intro c member
    cases given : arguments.scale with
    | none =>
        rw [given] at member
        cases member
    | some scale =>
        rw [given, DecimalSyntax.scaleText, List.mem_append, List.mem_cons] at member
        obtain ⟨comma, scaleWf⟩ := wf.scale scale given
        rcases member with space | rfl | digits
        · exact toNat_of_isSpace (comma c space)
        · decide
        · exact number_small scaleWf c digits
  intro c member
  simp only [DecimalSyntax.text, List.mem_append, List.mem_cons, List.not_mem_nil, or_false] at member
  rcases member with space | rfl | width | scaled | space | rfl
  · exact toNat_of_isSpace (wf.opens c space)
  · decide
  · exact number_small wf.width c width
  · exact scale c scaled
  · exact toNat_of_isSpace (wf.closes c space)
  · decide

theorem isSpace_toLower (c : Char) : isSpace c.toLower = isSpace c := by
  rcases toLower_cases c with same | ⟨low, high, folded⟩
  · rw [same]
  · have letter : ∀ d : Char, 65 ≤ d.toNat → isSpace d = false := by
      intro d low
      cases space : isSpace d with
      | false => rfl
      | true =>
          have small := toNat_of_isSpace space
          omega
    rw [letter c low, letter _ (by omega)]

/-- White space is the same in lower case. -/
theorem skip_lower (s : Text) : skip (lower s) = lower (skip s) := by
  unfold lower skip
  rw [List.dropWhile_map]
  congr 2
  funext c
  exact isSpace_toLower c

theorem reads_readIdentifier_lower (read : Reads input readIdentifier s name u) :
    Reads input' readIdentifier (lower s) (lower name) (lower u) := by
  obtain ⟨some, plain, ends, here⟩ := reads_readIdentifier.mp read
  refine reads_readIdentifier.mpr ⟨?_, ?_, ?_, ?_⟩
  · intro none
    exact some (List.map_eq_nil_iff.mp none)
  · intro c member
    obtain ⟨d, original, rfl⟩ := List.mem_map.mp member
    rw [endsIdentifier_toLower]
    exact plain d original
  · intro c first
    unfold lower at first
    rw [List.head?_map] at first
    obtain ⟨d, original, rfl⟩ := Option.map_eq_some_iff.mp first
    rw [endsIdentifier_toLower]
    exact ends d original
  · rw [skip_lower, here, lower_append]

/-- The arguments of a decimal hold no letters. -/
theorem reads_parseDecimal_lower (read : Reads input parseDecimal s type t) :
    Reads input' parseDecimal (lower s) type (lower t) := by
  rcases reads_parseDecimal.mp read with ⟨arguments, wf, rfl, rfl⟩ | ⟨none, rfl, rfl⟩
  · refine reads_parseDecimal.mpr (.inl ⟨arguments, wf, ?_, rfl⟩)
    rw [lower_append, lower_of_small (arguments_small wf)]
  · refine reads_parseDecimal.mpr (.inr ⟨?_, skip_lower s, rfl⟩)
    intro bracket
    rw [skip_lower, lower, List.head?_map] at bracket
    obtain ⟨c, first, folded⟩ := Option.map_eq_some_iff.mp bracket
    rcases toLower_cases c with same | ⟨low, -, number⟩
    · rw [same] at folded
      exact none (folded ▸ first)
    · rw [folded] at number
      exact absurd number (by rw [show '('.toNat = 40 from rfl]; omega)

end GlueTypeParser

namespace GlueTypes

variable {a b : LogicalType} {text : Text}

/-- The column of a partition is read in lower case. -/
theorem widens_of_lower (partition : toLogicalType (lower text) = .ok a) (table : toLogicalType text = .ok b) :
    Widens a b := by
  obtain ⟨_, lowerReads, -⟩ := toLogicalType_ok.mp partition
  obtain ⟨_, reads, -⟩ := toLogicalType_ok.mp table
  obtain ⟨name, u, named, typed⟩ := reads_parseType.mp reads
  obtain ⟨_, _, lowerNamed, lowerTyped⟩ := reads_parseType.mp lowerReads
  obtain ⟨rfl, rfl⟩ := (reads_readIdentifier_lower named).unique lowerNamed
  rw [lower_lower] at lowerTyped
  cases typed with
  | array here =>
      obtain ⟨_, _, _, rfl, -⟩ := lowerTyped.of_array here
      exact .inl rfl
  | map here =>
      obtain ⟨_, _, _, _, _, _, rfl, -⟩ := lowerTyped.of_map here
      exact .inl rfl
  | struct here =>
      obtain ⟨_, _, _, rfl, -⟩ := lowerTyped.of_struct here
      exact .inl rfl
  | decimal here read =>
      obtain ⟨rfl, -⟩ := (reads_parseDecimal_lower read).unique (lowerTyped.of_decimal here)
      exact Widens.refl _
  | characters here =>
      obtain ⟨rfl, -⟩ := lowerTyped.of_characters here
      exact Widens.refl _
  | leaf known =>
      obtain ⟨rfl, -⟩ := lowerTyped.of_leaf known
      exact Widens.refl _

end GlueTypes

end LowerCase

end DuckGlue
