import ResultMapping.Discriminator
import ResultMapping.Entry.Building
import ResultMapping.Event
import ResultMapping.Text.UpperCase

/-!
# Descriptors

A descriptor says how one row of a result becomes one object. It is built from a blueprint, which
lists the entries; building sorts the entries by their roles, collects the columns they read and
notes whether they nest other descriptors or queries.
-/

namespace ResultMapping

/-- The form in which column names are compared. -/
def normalizeColumn (column : String) : String := Text.upperCase column

namespace Entry

def isId (e : Entry) : Bool := e.hasFlags .id

def isConstructor (e : Entry) : Bool := e.hasFlags .constructor

/-- The columns that the entry reads: its own column, or else the own columns of its parts. -/
def directColumns (e : Entry) : List String :=
  match e.column with
  | some column => [column]
  | none => e.composites.filterMap (·.column)

/-- Whether the entry nests a descriptor within its row; a join over another result set does
not. -/
def nestsInRow (e : Entry) : Bool := e.nestedResultMap.isSome && e.resultSet.isNone

end Entry

structure Descriptor where
  id : String
  targetType : TargetType
  /-- All entries, in the order in which they were declared. -/
  entries : List Entry
  /-- The entries that identify a row. -/
  idEntries : List Entry
  /-- The constructor arguments, in their order. -/
  constructorEntries : List Entry
  /-- The entries that set a property. -/
  propertyEntries : List Entry
  /-- The columns that the entries read, normalized. -/
  mappedColumns : NameSet
  discriminator : Option Discriminator
  hasNestedResultMaps : Bool
  hasNestedQueries : Bool
  /-- Whether columns without an entry are mapped as well; if not set, the settings decide. -/
  autoMapping : Option Bool
deriving DecidableEq

/-- What a descriptor is built from. -/
structure Blueprint where
  id : String
  targetType : TargetType
  entries : List Entry
  autoMapping : Option Bool := none
  discriminator : Option Discriminator := none
deriving DecidableEq

/-- What has been noted of some entries. -/
structure EntryIndex where
  idEntries : List Entry := []
  constructorEntries : List Entry := []
  propertyEntries : List Entry := []
  mappedColumns : NameSet := ∅
  hasNestedResultMaps : Bool := false
  hasNestedQueries : Bool := false

namespace EntryIndex

/-- Takes note of one more entry. -/
def add (index : EntryIndex) (e : Entry) : EntryIndex where
  idEntries := if e.isId then index.idEntries ++ [e] else index.idEntries
  constructorEntries :=
    if e.isConstructor then index.constructorEntries ++ [e] else index.constructorEntries
  propertyEntries :=
    if e.isConstructor then index.propertyEntries else index.propertyEntries ++ [e]
  mappedColumns := index.mappedColumns.insertNames (e.directColumns.map normalizeColumn)
  hasNestedResultMaps := index.hasNestedResultMaps || e.nestsInRow
  hasNestedQueries := index.hasNestedQueries || e.nestedQuery.isSome

/-- Goes through the entries once, in their order. -/
def ofEntries (entries : List Entry) : EntryIndex := entries.foldl add {}

end EntryIndex

namespace Blueprint

/-- The descriptor of a blueprint, which must have an id. If no entry has the identity flag, all of
them identify a row. -/
def build (b : Blueprint) : Except MappingError Descriptor :=
  if b.id.isEmpty then .error .missingDescriptorId
  else
    let index := EntryIndex.ofEntries b.entries
    .ok {
      id := b.id
      targetType := b.targetType
      entries := b.entries
      idEntries := if index.idEntries.isEmpty then b.entries else index.idEntries
      constructorEntries := index.constructorEntries
      propertyEntries := index.propertyEntries
      mappedColumns := index.mappedColumns
      discriminator := b.discriminator
      hasNestedResultMaps := index.hasNestedResultMaps
      hasNestedQueries := index.hasNestedQueries
      autoMapping := b.autoMapping }

end Blueprint

namespace Descriptor

/-- Whether an entry reads the column, in whatever case it is written. -/
def isMappedColumn (d : Descriptor) (column : String) : Bool :=
  d.mappedColumns.contains (normalizeColumn column)

/-- The same descriptor, said to nest others whether or not its entries do. -/
def forceNestedResultMaps (d : Descriptor) : Descriptor := { d with hasNestedResultMaps := true }

/-- The descriptors that may be chosen in place of this one. -/
def caseIds (d : Descriptor) : List String :=
  match d.discriminator with
  | some discriminator => discriminator.descriptorIds
  | none => []

/-- What is known of a descriptor when it has just been built. -/
def summary (d : Descriptor) : BuildSummary where
  id := d.id
  targetType := d.targetType.name
  entries := d.entries.length
  idEntries := d.idEntries.length
  constructorEntries := d.constructorEntries.length
  propertyEntries := d.propertyEntries.length
  hasNestedResultMaps := d.hasNestedResultMaps
  hasNestedQueries := d.hasNestedQueries

end Descriptor

namespace Blueprint

/-- What building reports: a descriptor that came out. -/
def buildEvents (b : Blueprint) : List Event :=
  match b.build with
  | .ok d => [.descriptorBuilt d.summary]
  | .error _ => []

end Blueprint

end ResultMapping
