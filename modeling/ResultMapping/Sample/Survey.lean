import ResultMapping.Sample.Mapping

/-!
# Surveys

What many samples have in common: whether each is of the form that it should have, and which
lengths, counts and choices were seen among them.
-/

namespace ResultMapping.Sample

/-- What is noted of a sample. -/
inductive Measure where
  | columnLength
  | propertyLength
  | flags
  | kind
  | compositeCount
  | listLength
  | idLength
  | typeLength
  | autoMapping
deriving DecidableEq, Repr

namespace Measure

def all : List Measure :=
  [columnLength, propertyLength, flags, kind, compositeCount, listLength, idLength, typeLength,
    autoMapping]

def name : Measure → String
  | columnLength => "column_lengths"
  | propertyLength => "property_lengths"
  | flags => "flags"
  | kind => "kinds"
  | compositeCount => "composite_counts"
  | listLength => "list_lengths"
  | idLength => "id_lengths"
  | typeLength => "type_lengths"
  | autoMapping => "auto_mapping"

end Measure

/-- One sample under inspection: whether it has its form, and what was noted of it. -/
structure Inspection where
  valid : Bool
  notes : List (Measure × Nat) := []

namespace Inspection

/-- Two parts of a sample together. -/
def both (a b : Inspection) : Inspection := ⟨a.valid && b.valid, a.notes ++ b.notes⟩

def every (parts : List Inspection) : Inspection := parts.foldl both ⟨true, []⟩

end Inspection

def inspectName (shape : NameShape) (measure : Measure) (name : String) : Inspection :=
  ⟨shape.fits name, [(measure, name.length)]⟩

def inspectFlags (flags : Flags) : Inspection :=
  ⟨flags.isKnown, [(.flags, flags.bits.toNat)]⟩

def inspectPart (e : Entry) : Inspection :=
  let property := e.property.getD ""
  let column := e.column.getD ""
  .every [⟨e = .composite property column, []⟩,
    inspectName .property .propertyLength property, inspectName .column .columnLength column]

/-- The forms of an entry. -/
inductive Kind where
  | column
  | composite
  | nested
  | joined
deriving DecidableEq, Repr

namespace Kind

def number : Kind → Nat
  | column => 0
  | composite => 1
  | nested => 2
  | joined => 3

/-- The kind that an entry looks like. -/
def of (e : Entry) : Kind :=
  if e.isComposite then composite
  else if e.resultSet.isSome then joined
  else if e.nestedResultMap.isSome then nested
  else column

/-- What an entry of the kind has besides its property and flags. -/
def settings (kind : Kind) (e : Entry) : List Entry.Setting :=
  let column := e.column.getD ""
  match kind with
  | .column => [.column column]
  | composite => [.composites e.composites, .nestedQuery "selectNested"]
  | nested => [.nestedResultMap "nestedResult"]
  | joined => [.nestedResultMap "nestedResult", .column column, .foreignColumn column,
      .resultSet "children"]

/-- Whether entries of the kind carry flags. -/
def hasFlags : Kind → Bool
  | column | composite => true
  | nested | joined => false

end Kind

/-- An entry of one of the kinds. -/
def inspectEntry (kinds : List Kind) (e : Entry) : Inspection :=
  let kind := Kind.of e
  let property := e.property.getD ""
  let settings := kind.settings e ++ [.flags (if kind.hasFlags then e.flags else .empty)]
  let form := kinds.contains kind && e = .draft property settings && e.fault?.isNone
  let parts := e.composites.length
  .every ([⟨form && (kind != .composite || (1 ≤ parts && parts ≤ 3)), [(.kind, kind.number)]⟩,
      inspectName .property .propertyLength property, inspectFlags e.flags]
    ++ (e.column.toList.map (inspectName .column .columnLength))
    ++ (if kind = .composite then [⟨true, [(.compositeCount, parts)]⟩] else [])
    ++ e.composites.map inspectPart)

def anyKind : List Kind := [.column, .composite, .nested, .joined]

/-- A list of fewer entries than the bound. -/
def inspectEntries (bound : Nat) (es : List Entry) : Inspection :=
  .every (⟨es.length < bound, [(.listLength, es.length)]⟩ :: es.map (inspectEntry anyKind))

def inspectBlueprint (b : Blueprint) : Inspection :=
  let stem := String.ofList (b.id.toList.take (b.id.length - "Result".length))
  let choice := match b.autoMapping with
    | some false => 0
    | some true => 1
    | none => 2
  .every [⟨b.id = stem ++ "Result" && b.discriminator.isNone && b.build.toBool,
      [(.autoMapping, choice)]⟩,
    inspectName .descriptorStem .idLength stem,
    inspectName .type .typeLength b.targetType.name, inspectEntries 12 b.entries]

/-- What is drawn. -/
inductive Subject where
  | column
  | property
  | flags
  | columnEntry
  | compositeEntry
  | nestedEntry
  | anyEntry
  | entries (bound : Nat)
  | blueprint

namespace Subject

/-- Draws one sample and inspects it. -/
def inspect : Subject → Draw Inspection
  | column => inspectName .column .columnLength <$> NameShape.column.draw
  | property => inspectName .property .propertyLength <$> NameShape.property.draw
  | flags => inspectFlags <$> Sample.flags
  | columnEntry => inspectEntry [.column] <$> Sample.columnEntry
  | compositeEntry => inspectEntry [.composite] <$> Sample.compositeEntry
  | nestedEntry => inspectEntry [.nested, .joined] <$> Sample.nestedEntry
  | anyEntry => inspectEntry anyKind <$> Sample.anyEntry
  | entries bound => inspectEntries bound <$> Sample.entries bound
  | blueprint => inspectBlueprint <$> Sample.blueprint

end Subject

/-- What was seen so far: whether all samples had their form, and under each measure the numbers
noted, in increasing order. -/
structure Survey where
  allValid : Bool := true
  seen : Measure → List Nat := fun _ => []

namespace Survey

/-- Puts a number at its place in an increasing list. -/
def insert (n : Nat) : List Nat → List Nat
  | [] => [n]
  | m :: rest =>
    if n < m then n :: m :: rest else if n = m then m :: rest else m :: insert n rest

/-- The numbers noted under a measure, each once and in increasing order. -/
def numbers (measure : Measure) (notes : List (Measure × Nat)) : List Nat :=
  notes.foldl (fun ns (m, n) => if m = measure then insert n ns else ns) []

/-- Surveys so many samples, drawn from a seed. -/
def run (subject : Subject) (cases : Nat) (seed : UInt64) : Survey :=
  let (inspections, _) := (times subject.inspect cases).run seed
  let notes := inspections.flatMap (·.notes)
  { allValid := inspections.all (·.valid)
    seen := fun measure => numbers measure notes }

end Survey

end ResultMapping.Sample
