import ResultMapping.Entry.Basic
import ResultMapping.Json.Decode

/-!
# Entries as JSON

An entry is written as an object with all fields in their order, absent ones as `null`. It is read
from an object, or from an array of its fields in order; a field that is not given keeps its blank
value. Reading checks the flags but not whether the entry makes sense as a mapping.
-/

namespace ResultMapping

namespace TargetType

def ofJson : Json.Decoder TargetType
  | .string name => .ok ⟨name⟩
  | _ => .error .unexpected

def toJson (type : TargetType) : Json := .string type.name

def ofText (text : String) : Except Refusal TargetType :=
  Json.decodeText .everything () ofJson text

end TargetType

namespace Flags

/-- A byte without unknown bits. -/
def ofJson (value : Json) : Except Refusal Flags := do
  let bits ← Json.toNatBelow 256 value
  match ofBits? (.ofNat bits) with
  | some flags => pure flags
  | none => .error (.unknownFlags bits)

def toJson (flags : Flags) : Json := .integer flags.bits.toNat

def ofText (text : String) : Except Refusal Flags := Json.decodeText .everything () ofJson text

end Flags

namespace Entry

inductive Field where
  | property
  | column
  | targetType
  | flags
  | nestedResultMap
  | nestedQuery
  | resultSet
  | foreignColumn
  | columnPrefix
  | notNullColumns
  | composites
  | isLazy
deriving DecidableEq, Repr

namespace Field

/-- All fields in their order. -/
def all : List Field :=
  [property, column, targetType, flags, nestedResultMap, nestedQuery, resultSet, foreignColumn,
    columnPrefix, notNullColumns, composites, isLazy]

def name : Field → String
  | property => "property"
  | column => "column"
  | targetType => "target_type"
  | flags => "flags"
  | nestedResultMap => "nested_result_map_id"
  | nestedQuery => "nested_query_id"
  | resultSet => "result_set"
  | foreignColumn => "foreign_column"
  | columnPrefix => "column_prefix"
  | notNullColumns => "not_null_columns"
  | composites => "composites"
  | isLazy => "lazy"

/-- The field of a name. -/
def named? (name : String) : Option Field := all.find? fun field => field.name == name

end Field

/-- A field with a value of its kind. -/
inductive Assignment where
  | property (value : Option String)
  | column (value : Option String)
  | targetType (value : Option TargetType)
  | flags (value : Flags)
  | nestedResultMap (value : Option String)
  | nestedQuery (value : Option String)
  | resultSet (value : Option String)
  | foreignColumn (value : Option String)
  | columnPrefix (value : Option String)
  | notNullColumns (value : List String)
  | composites (value : List Entry)
  | isLazy (value : Bool)

/-- The entry with one field replaced. -/
def assign (e : Entry) : Assignment → Entry
  | .property value => { e with property := value }
  | .column value => { e with column := value }
  | .targetType value => { e with targetType := value }
  | .flags value => { e with flags := value }
  | .nestedResultMap value => { e with nestedResultMap := value }
  | .nestedQuery value => { e with nestedQuery := value }
  | .resultSet value => { e with resultSet := value }
  | .foreignColumn value => { e with foreignColumn := value }
  | .columnPrefix value => { e with columnPrefix := value }
  | .notNullColumns value => { e with notNullColumns := value }
  | .composites value => { e with composites := value }
  | .isLazy value => { e with isLazy := value }

/-- The blank entry with some fields replaced. -/
def ofAssignments (assignments : List Assignment) : Entry := assignments.foldl assign {}

/-! ## Writing -/

mutual

def toJson : Entry → Json
  | ⟨property, column, targetType, flags, nestedResultMap, nestedQuery, resultSet, foreignColumn,
      columnPrefix, notNullColumns, composites, isLazy⟩ =>
    .object [
      (Field.property.name, .ofOption .string property),
      (Field.column.name, .ofOption .string column),
      (Field.targetType.name, .ofOption TargetType.toJson targetType),
      (Field.flags.name, flags.toJson),
      (Field.nestedResultMap.name, .ofOption .string nestedResultMap),
      (Field.nestedQuery.name, .ofOption .string nestedQuery),
      (Field.resultSet.name, .ofOption .string resultSet),
      (Field.foreignColumn.name, .ofOption .string foreignColumn),
      (Field.columnPrefix.name, .ofOption .string columnPrefix),
      (Field.notNullColumns.name, .array (notNullColumns.map .string)),
      (Field.composites.name, .array (toJsonList composites)),
      (Field.isLazy.name, .bool isLazy)]

def toJsonList : List Entry → List Json
  | [] => []
  | e :: rest => toJson e :: toJsonList rest

end

/-! ## Reading -/

/-- The value of a field other than the parts. -/
def readPlain (field : Field) (value : Json) : Except Refusal Assignment :=
  match field with
  | .property => .property <$> value.toOptionalText
  | .column => .column <$> value.toOptionalText
  | .targetType => (fun name => .targetType (name.map .mk)) <$> value.toOptionalText
  | .flags => .flags <$> Flags.ofJson value
  | .nestedResultMap => .nestedResultMap <$> value.toOptionalText
  | .nestedQuery => .nestedQuery <$> value.toOptionalText
  | .resultSet => .resultSet <$> value.toOptionalText
  | .foreignColumn => .foreignColumn <$> value.toOptionalText
  | .columnPrefix => .columnPrefix <$> value.toOptionalText
  | .notNullColumns => .notNullColumns <$> value.toTexts
  | .composites => .error .unexpected
  | .isLazy => .isLazy <$> value.toBool

mutual

def ofJson : Json → Except Refusal Entry
  | .object members => ofAssignments <$> readMembers [] members
  | .array items => ofAssignments <$> readItems Field.all items
  | _ => .error .unexpected

/-- The fields among the members of an object, after those that were already seen. -/
def readMembers (seen : List Field) : List (String × Json) → Except Refusal (List Assignment)
  | [] => .ok []
  | (name, value) :: rest =>
    match Field.named? name with
    | none => readMembers seen rest
    | some field =>
      if field ∈ seen then .error (.repeated name)
      else do
        let first ← readField field value
        let others ← readMembers (field :: seen) rest
        pure (first :: others)

/-- The values of the fields in turn. -/
def readItems : List Field → List Json → Except Refusal (List Assignment)
  | _, [] => .ok []
  | [], _ :: _ => .error .tooLong
  | field :: fields, value :: rest => do
    let first ← readField field value
    let others ← readItems fields rest
    pure (first :: others)

def readField : Field → Json → Except Refusal Assignment
  | .composites, .array items => .composites <$> ofJsonList items
  | field, value => readPlain field value

def ofJsonList : List Json → Except Refusal (List Entry)
  | [] => .ok []
  | item :: rest => do
    let first ← ofJson item
    let others ← ofJsonList rest
    pure (first :: others)

end

/-- Of the objects in a text only the fields of an entry are taken. -/
def selection : Json.Selection Unit where
  member _ name := if (Field.named? name).isSome then some () else none
  item _ _ := some ()

/-- The entry that a text denotes. -/
def ofText (text : String) : Except Refusal Entry := Json.decodeText selection () ofJson text

end Entry

end ResultMapping
