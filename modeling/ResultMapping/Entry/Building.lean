import ResultMapping.Entry.Basic
import ResultMapping.Error

/-!
# Building entries

An entry is built from a property and a list of settings, each of which sets one field; a later
setting overrides an earlier one, except that single flags are added to those before. The finished
entry is checked: what it nests must be unambiguous, it must have a column to read unless it nests
another descriptor, and a join over a result set must pair every column with a foreign column.
-/

namespace ResultMapping.Entry

/-- One step of building an entry. -/
inductive Setting where
  | column (name : String)
  | targetType (type : TargetType)
  /-- Replaces all flags. -/
  | flags (flags : Flags)
  /-- Adds the identity flag. -/
  | id
  /-- Adds the constructor flag. -/
  | constructor
  | nestedResultMap (id : String)
  | nestedQuery (id : String)
  | resultSet (name : String)
  | foreignColumn (name : String)
  | columnPrefix (text : String)
  | notNullColumns (names : List String)
  | composites (parts : List Entry)
  | isLazy (value : Bool)

/-- The entry with one setting made. -/
def set (e : Entry) : Setting → Entry
  | .column name => { e with column := some name }
  | .targetType type => { e with targetType := some type }
  | .flags flags => { e with flags }
  | .id => { e with flags := e.flags.union .id }
  | .constructor => { e with flags := e.flags.union .constructor }
  | .nestedResultMap id => { e with nestedResultMap := some id }
  | .nestedQuery id => { e with nestedQuery := some id }
  | .resultSet name => { e with resultSet := some name }
  | .foreignColumn name => { e with foreignColumn := some name }
  | .columnPrefix text => { e with columnPrefix := some text }
  | .notNullColumns names => { e with notNullColumns := names }
  | .composites parts => { e with composites := parts }
  | .isLazy value => { e with isLazy := value }

/-- The entry that the settings describe, unchecked. -/
def draft (property : Option String) (settings : List Setting) : Entry :=
  settings.foldl set { property }

/-- The first thing that is wrong with an entry. -/
def fault? (e : Entry) : Option MappingError :=
  if e.nestedQuery.isSome && e.nestedResultMap.isSome then
    some (.conflictingNestedReferences e.label)
  else if e.nestedResultMap.isNone && e.column.isNone && e.composites.isEmpty then
    some (.missingColumn e.label)
  else if e.resultSet.isSome
      && (columnNames e.column).length != (columnNames e.foreignColumn).length then
    some (.foreignColumnMismatch e.label (e.column.getD "") (e.foreignColumn.getD ""))
  else none

/-- The entry that the settings describe, if nothing is wrong with it. -/
def build (property : Option String) (settings : List Setting) : Except MappingError Entry :=
  let e := draft property settings
  match e.fault? with
  | some fault => .error fault
  | none => .ok e

end ResultMapping.Entry
