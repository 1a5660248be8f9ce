import ResultMapping.Entry.Json

/-!
# Discriminators

A discriminator looks at a column of a row and chooses by its value the descriptor that the row is
mapped with.
-/

namespace ResultMapping

structure Discriminator where
  /-- The entry whose column is looked at. -/
  entry : Entry
  /-- The id of the chosen descriptor under each column value. -/
  cases : Dictionary String
deriving DecidableEq

namespace Discriminator

/-- The descriptor chosen by a column value. -/
def descriptorIdFor (d : Discriminator) (value : String) : Option String := d.cases.get? value

/-- The descriptors that can be chosen, with repeats, in the order of their column values. -/
def descriptorIds (d : Discriminator) : List String := d.cases.values

def toJson (d : Discriminator) : Json :=
  .object [("entry", d.entry.toJson), ("cases", Json.ofDictionary d.cases)]

def ofJson (value : Json) : Except Refusal Discriminator := do
  let (entry, cases) ← Json.toRecord "entry" "cases" Entry.ofJson Json.toDictionary value
  pure ⟨entry, cases⟩

/-- A place in the text of a discriminator. -/
inductive Place where
  | root
  | entry
  | cases

/-- Of an entry only its fields are taken, of the cases everything. -/
def selection : Json.Selection Place where
  member
    | .root, "entry" => some .entry
    | .root, "cases" => some .cases
    | .root, _ => none
    | .entry, name => (Entry.selection.member () name).map fun _ => .entry
    | .cases, _ => some .cases
  item
    | .root, 0 => some .entry
    | .root, _ => some .cases
    | place, _ => some place

def ofText (text : String) : Except Refusal Discriminator :=
  Json.decodeText selection .root ofJson text

end Discriminator

end ResultMapping
