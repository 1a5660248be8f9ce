import ResultMapping.Descriptor
import ResultMapping.Sample.Draw

/-!
# Sample mappings

Names, entries and blueprints drawn at random: plain columns, composite keys behind a nested query,
and nested descriptors, in the same row or joined over a result set.
-/

namespace ResultMapping.Sample

def lowerLetters : List Char := "abcdefghijklmnopqrstuvwxyz".toList

def upperLetters : List Char := "ABCDEFGHIJKLMNOPQRSTUVWXYZ".toList

def letters : List Char := lowerLetters ++ upperLetters

def digits : List Char := "0123456789".toList

/-- The names of one kind: a first character, then up to `extra` others. -/
structure NameShape where
  first : List Char
  others : List Char
  extra : Nat

namespace NameShape

def column : NameShape := ⟨letters, letters ++ digits ++ ['_'], 15⟩

def property : NameShape := ⟨lowerLetters, letters ++ digits, 11⟩

/-- The id of a descriptor without the word at its end. -/
def descriptorStem : NameShape := ⟨lowerLetters, letters, 11⟩

def type : NameShape := ⟨upperLetters, letters, 11⟩

def draw (shape : NameShape) : Draw String := do
  let first ← charOf shape.first
  let others ← times (charOf shape.others) (← below (shape.extra + 1))
  pure (.ofList (first :: others))

/-- Whether a name is of this kind. -/
def fits (shape : NameShape) (name : String) : Bool :=
  match name.toList with
  | [] => false
  | first :: others =>
    shape.first.contains first && others.all shape.others.contains && others.length ≤ shape.extra

end NameShape

def flags : Draw Flags := do
  pure (.truncate (.ofNat (← below 4)))

/-- An entry that reads one column. -/
def columnEntry : Draw Entry := do
  let property ← NameShape.property.draw
  let column ← NameShape.column.draw
  pure (.draft property [.column column, .flags (← flags)])

def part : Draw Entry := do
  let property ← NameShape.property.draw
  pure (.composite property (← NameShape.column.draw))

/-- An entry that passes one to three columns to a query. -/
def compositeEntry : Draw Entry := do
  let property ← NameShape.property.draw
  let parts ← times part ((← below 3) + 1)
  pure (.draft property [.composites parts, .nestedQuery "selectNested", .flags (← flags)])

/-- An entry that nests another descriptor. -/
def nestedEntry : Draw Entry := do
  let property ← NameShape.property.draw
  let column ← NameShape.column.draw
  let join : List Entry.Setting :=
    if ← coin then [.column column, .foreignColumn column, .resultSet "children"] else []
  pure (.draft property (.nestedResultMap "nestedResult" :: join))

/-- An entry of any kind, most often a plain column. -/
def anyEntry : Draw Entry := do
  let n ← below 9
  if n < 6 then columnEntry else if n < 8 then compositeEntry else nestedEntry

/-- Fewer entries than the bound. -/
def entries (bound : Nat) : Draw (List Entry) := do
  times anyEntry (← below bound)

def blueprint : Draw Blueprint := do
  let stem ← NameShape.descriptorStem.draw
  let type ← NameShape.type.draw
  let entries ← entries 12
  let autoMapping ← if ← coin then some <$> coin else pure none
  pure { id := stem ++ "Result", targetType := ⟨type⟩, entries, autoMapping }

end ResultMapping.Sample
