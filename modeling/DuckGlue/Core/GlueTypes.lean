import DuckGlue.Core.GlueInfo

/-! # Glue types

Hive style type strings, the DuckDB types they are read as, and how the string
Glue stores for a partition value becomes a value of its key's type.
-/

namespace DuckGlue

open StringUtil

/-- DuckDB's `LogicalType`; a type Glue has no spelling for is known by its name. -/
inductive LogicalType where
  | boolean
  | tinyint
  | smallint
  | integer
  | bigint
  | float
  | double
  | decimal (width scale : Nat)
  | varchar
  | blob
  | date
  | time
  | timestamp
  | timestampTz
  | uuid
  | variant
  | list (child : LogicalType)
  | map (key value : LogicalType)
  | struct (children : List (Text × LogicalType))
  | utinyint
  | usmallint
  | uinteger
  | unsupported (name : Text)
  deriving Repr

namespace LogicalType

mutual

/-- `operator==`. A struct's field names are DuckDB identifiers. -/
def same : LogicalType → LogicalType → Bool
  | .list a, .list b => same a b
  | .map k v, .map k' v' => same k k' && same v v'
  | .struct fields, .struct fields' => sameFields fields fields'
  | .decimal w s, .decimal w' s' => w = w' && s = s'
  | .unsupported a, .unsupported b => a = b
  | a, b => a.ctorIdx = b.ctorIdx

def sameFields : List (Text × LogicalType) → List (Text × LogicalType) → Bool
  | [], [] => true
  | (name, type) :: fields, (name', type') :: fields' =>
      ciEquals name name' && same type type' && sameFields fields fields'
  | _, _ => false

end

def isNested : LogicalType → Bool
  | .list _ | .map _ _ | .struct _ => true
  | _ => false

end LogicalType

/-- `GlueTypeParser`: reads `input`, what is left of it is the state. -/
abbrev GlueTypeParser := ReaderT Text (StateT Text (Except Exception))

namespace GlueTypeParser

/-- What the messages give as the position. -/
def position (input rest : Text) : Text := (toString (size input - size rest)).toList

def skipWhitespace : GlueTypeParser Unit := modify fun rest => rest.dropWhile isSpace

def peek (c : Char) : GlueTypeParser Bool := do
  skipWhitespace
  return (← get).head? = some c

def advance : GlueTypeParser Unit := modify List.tail

def expect (c : Char) : GlueTypeParser Unit := do
  if !(← peek c) then
    let input ← read
    throw (.invalidInput ("Expected '" ++ [c] ++ "' in Glue type '" ++ input ++ "' at position " ++
      position input (← get)))
  advance

def endsIdentifier (c : Char) : Bool :=
  c = '<' || c = '>' || c = ',' || c = ':' || c = '(' || c = ')' || isSpace c

/-- `ReadIdentifier`: a type name. -/
def readIdentifier : GlueTypeParser Text := do
  skipWhitespace
  let rest ← get
  let name := rest.takeWhile (!endsIdentifier ·)
  if name = [] then
    let input ← read
    throw (.invalidInput ("Expected a type name in Glue type '" ++ input ++ "' at position " ++
      position input rest))
  set (rest.dropWhile (!endsIdentifier ·))
  return name

def endsFieldName (c : Char) : Bool := c = ':' || c = '<' || c = '>' || c = ','

/-- `ReadFieldName`: everything up to its ':', as Hive allows spaces in field
names, or quoted with backticks. -/
def readFieldName : GlueTypeParser Text := do
  skipWhitespace
  let input ← read
  match ← get with
  | '\x60' :: rest =>
      match rest.dropWhile (· ≠ '\x60') with
      | [] => throw (.invalidInput ("Unterminated quoted identifier in Glue type '" ++ input ++ "'"))
      | _ :: after =>
          set after
          return rest.takeWhile (· ≠ '\x60')
  | rest =>
      let name := (rest.takeWhile (!endsFieldName ·)).rdropWhile isSpace
      let after := rest.dropWhile (!endsFieldName ·)
      if name = [] then
        throw (.invalidInput ("Expected a field name in Glue type '" ++ input ++ "' at position " ++
          position input after))
      set after
      return name

/-- `ReadInteger`; `stoll` throws beyond 64 bits. -/
def readInteger : GlueTypeParser Nat := do
  skipWhitespace
  let rest ← get
  let digits := rest.takeWhile Char.isDigit
  if digits = [] then
    let input ← read
    throw (.invalidInput ("Expected a number in Glue type '" ++ input ++ "' at position " ++
      position input rest))
  let number := digits.foldl (fun n c => 10 * n + (c.toNat - '0'.toNat)) 0
  if number > 9223372036854775807 then
    throw ⟨.outOfRange, "stoll"⟩
  set (rest.dropWhile Char.isDigit)
  return number

/-- `Decimal::MAX_WIDTH_DECIMAL` -/
def maxWidthDecimal : Nat := 38

/-- The types `ParseType` knows by name alone. -/
def leafTypes : List (Text × LogicalType) := [
  ("boolean".toList, .boolean), ("bool".toList, .boolean),
  ("tinyint".toList, .tinyint), ("smallint".toList, .smallint),
  ("int".toList, .integer), ("integer".toList, .integer),
  ("bigint".toList, .bigint), ("long".toList, .bigint),
  ("float".toList, .float), ("real".toList, .float), ("double".toList, .double),
  ("string".toList, .varchar), ("binary".toList, .blob),
  ("date".toList, .date), ("time".toList, .time), ("timestamp".toList, .timestamp),
  ("timestamptz".toList, .timestampTz), ("timestamp with time zone".toList, .timestampTz),
  ("timestamp_with_local_time_zone".toList, .timestampTz),
  ("uuid".toList, .uuid), ("variant".toList, .variant)]

/-- The rest of `decimal` after its name; without arguments it is decimal(10,0). -/
def parseDecimal : GlueTypeParser LogicalType := do
  let (width, scale) ←
    if ← peek '(' then
      advance
      let width ← readInteger
      let scale ←
        if ← peek ',' then
          advance
          readInteger
        else pure 0
      expect ')'
      pure (width, scale)
    else pure (10, 0)
  if width < 1 || width > maxWidthDecimal || scale > width then
    throw (.invalidInput ("Unsupported decimal type '" ++ (← read) ++ "' in Glue type"))
  return .decimal width scale

mutual

/-- `ParseType`. Every nested type follows a name and a bracket, so the length of
the input is fuel enough. -/
def parseType : Nat → GlueTypeParser LogicalType
  | 0 => throw (.internal "out of fuel")
  | fuel + 1 => do
      let name := lower (← readIdentifier)
      if name = "array".toList then
        expect '<'
        let child ← parseType fuel
        expect '>'
        return .list child
      if name = "map".toList then
        expect '<'
        let key ← parseType fuel
        expect ','
        let value ← parseType fuel
        expect '>'
        return .map key value
      if name = "struct".toList then
        expect '<'
        let children ← parseFields fuel
        expect '>'
        return .struct children
      if name = "decimal".toList || name = "numeric".toList then
        return ← parseDecimal
      if name = "varchar".toList || name = "char".toList then
        -- the length is not enforced
        if ← peek '(' then
          advance
          let _ ← readInteger
          expect ')'
        return .varchar
      match leafTypes.lookup name with
      | some type => return type
      | none => throw (.notImplemented ("Glue type '" ++ name ++ "' (in '" ++ (← read) ++ "') is not supported"))

/-- The fields of a struct, at least one. -/
def parseFields : Nat → GlueTypeParser (List (Text × LogicalType))
  | 0 => throw (.internal "out of fuel")
  | fuel + 1 => do
      let fieldName ← readFieldName
      expect ':'
      let fieldType ← parseType fuel
      if ← peek ',' then
        advance
        let children ← parseFields fuel
        return (fieldName, fieldType) :: children
      return [(fieldName, fieldType)]

end

def parse (fuel : Nat) : GlueTypeParser LogicalType := do
  let result ← parseType fuel
  skipWhitespace
  let rest ← get
  if rest ≠ [] then
    let input ← read
    throw (.invalidInput ("Unexpected trailing characters in Glue type '" ++ input ++ "' at position " ++
      position input rest))
  return result

end GlueTypeParser

/-- `HivePartitioning::DEFAULT_PARTITION_NAME` -/
def defaultPartitionName : Text := "__HIVE_DEFAULT_PARTITION__"

/-- The casts of DuckDB a partition value goes through; NULL is no `Value`. -/
structure ValueCasts (Value : Type) where
  /-- `Value(str)`, a VARCHAR. -/
  ofText : Text → Value
  /-- `TryCastAs` of a VARCHAR. -/
  tryCastAs : Text → LogicalType → Option Value
  /-- `LogicalType::ToString` -/
  typeName : LogicalType → Text
  /-- `CastFunctionSet::ImplicitCastCost`, from -1 for no implicit cast. -/
  implicitCastCost : LogicalType → LogicalType → Int

namespace GlueTypes

def toLogicalType (glueType : Text) : Except Exception LogicalType := do
  let (type, _) ← (GlueTypeParser.parse (2 * glueType.length + 2)).run glueType |>.run glueType
  return type

/-- What the type strings do not quote in a struct's field names. -/
def canNameField (name : Text) : Bool :=
  !(name = [] || name.any (fun c => c = ':' || c = ',' || c = '<' || c = '>' || c = '\x60') ||
    name.head?.any isSpace || name.getLast?.any isSpace)

mutual

/-- `FromLogicalType`; `typeName` is `LogicalType::ToString`. -/
def fromLogicalType (typeName : LogicalType → Text) : LogicalType → Except Exception Text
  | .boolean => .ok "boolean"
  | .tinyint => .ok "tinyint"
  | .smallint => .ok "smallint"
  | .integer => .ok "int"
  | .bigint => .ok "bigint"
  | .utinyint => .ok "smallint"
  | .usmallint => .ok "int"
  | .uinteger => .ok "bigint"
  | .float => .ok "float"
  | .double => .ok "double"
  | .decimal width scale => .ok ("decimal(" ++ (toString width).toList ++ "," ++ (toString scale).toList ++ ")")
  | .varchar => .ok "string"
  | .blob => .ok "binary"
  | .date => .ok "date"
  | .time => .ok "time"
  | .timestamp => .ok "timestamp"
  | .timestampTz => .ok "timestamptz"
  | .uuid => .ok "uuid"
  | .variant => .ok "variant"
  | .list child => do
      let child ← fromLogicalType typeName child
      return "array<" ++ child ++ ">"
  | .map key value => do
      let key ← fromLogicalType typeName key
      let value ← fromLogicalType typeName value
      return "map<" ++ key ++ "," ++ value ++ ">"
  | .struct [] => .error (.notImplemented ("DuckDB type '" ++ typeName (.struct []) ++ "' can not be converted to a Glue type"))
  | .struct (field :: fields) => do
      let fields ← fromFields typeName (field :: fields)
      return "struct<" ++ join fields "," ++ ">"
  | .unsupported name => .error (.notImplemented ("DuckDB type '" ++ typeName (.unsupported name) ++ "' can not be converted to a Glue type"))

def fromFields (typeName : LogicalType → Text) : List (Text × LogicalType) → Except Exception (List Text)
  | [] => .ok []
  | (name, type) :: fields => do
      if !canNameField name then
        throw (.notImplemented ("Struct field name '" ++ name ++ "' can not be stored in a Glue type"))
      let type ← fromLogicalType typeName type
      let fields ← fromFields typeName fields
      return (name ++ ":" ++ type) :: fields

end

def normalizedHiveType (type : Text) : Text := (lower type).filter (!isSpace ·)

/-- `SameColumnType`: a type the parser can not read is compared as text. -/
def sameColumnType (a b : Text) : Bool :=
  match toLogicalType a, toLogicalType b with
  | .ok a', .ok b' => a'.same b'
  | _, _ => normalizedHiveType a = normalizedHiveType b

/-- `PartitionValueIsNull` -/
def partitionValueIsNull (value : Text) (type : LogicalType) : Bool :=
  value = defaultPartitionName || (!type.same .varchar && (ciEquals value "NULL" || value = []))

/-- `PartitionValue`; `none` is the NULL of the type. -/
def partitionValue {Value : Type} (casts : ValueCasts Value) (key value : Text) (type : LogicalType) :
    Except Exception (Option Value) :=
  if partitionValueIsNull value type then .ok none
  else if type.same .varchar then .ok (some (casts.ofText value))
  else match casts.tryCastAs value type with
    | some cast => .ok (some cast)
    | none => .error (.invalidInput ("Unable to cast '" ++ value ++ "' (from Glue partition column '" ++
        upper key ++ "') to: '" ++ casts.typeName type ++ "'"))

/-- The rank of the integer types in `IsAllowedHiveTypeChange`. -/
def integerRank : LogicalType → Nat
  | .tinyint => 1
  | .smallint => 2
  | .integer => 3
  | .bigint => 4
  | _ => 0

/-- `GlueSchemaEntry::IsAllowedHiveTypeChange` -/
def isAllowedHiveTypeChange (source target : LogicalType) : Bool :=
  if source.same target then true
  else if integerRank source > 0 && integerRank target > 0 then integerRank target > integerRank source
  else (source.same .float && target.same .double) || target.same .varchar

/-- `CanReadPartitionTypeAs` -/
def canReadPartitionTypeAs {Value : Type} (casts : ValueCasts Value) (source target : LogicalType) : Bool :=
  source.isNested || target.isNested || isAllowedHiveTypeChange source target ||
    (match source, target with
      | .decimal _ _, .decimal _ _ => true
      | _, _ => false) ||
    casts.implicitCastCost source target ≥ 0

end GlueTypes

namespace GluePartitionInfo

/-- `FindPartitionColumn`: by position in csv tables, by name otherwise. -/
def findPartitionColumn (partition : GluePartitionInfo) (tableColumns : List GlueColumn) (index : Nat)
    (byPosition : Bool) : Option GlueColumn :=
  if byPosition then partition.partitionColumns[index]?
  else do
    let tableColumn ← tableColumns[index]?
    partition.partitionColumns.find? fun column => ciEquals column.name tableColumn.name

/-- `FindColumnTypeMismatch`: the first data column of the table whose type this
partition declares differently. -/
def findColumnTypeMismatch (partition : GluePartitionInfo) (tableColumns : List GlueColumn)
    (byPosition : Bool) : Option Nat :=
  (List.range tableColumns.length).find? fun index =>
    match tableColumns[index]?, partition.findPartitionColumn tableColumns index byPosition with
    | some tableColumn, some partitionColumn =>
        !GlueTypes.sameColumnType tableColumn.type partitionColumn.type
    | _, _ => false

end GluePartitionInfo

end DuckGlue
