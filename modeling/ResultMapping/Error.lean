import ResultMapping.Text.Quoted

/-!
# Errors

What can go wrong while mappings are put together, while a call passes through interceptors and
while settings are read. Each error is a cause with the names it concerns; `message` is its wording
and `outline` the form in which diagnostics show it.
-/

namespace ResultMapping

/-- What is wrong with an entry, a descriptor or a look-up. -/
inductive MappingError where
  | missingDescriptorId
  | conflictingNestedReferences (property : String)
  | missingColumn (property : String)
  | foreignColumnMismatch (property columns foreignColumns : String)
  | duplicateDescriptor (id : String)
  | descriptorNotFound (id : String)
deriving DecidableEq, Repr

/-- Why a call, an interceptor or a chain failed. -/
inductive InterceptionError where
  | operationFailed (target operation reason : String)
  | unknownOperation (target operation : String)
  | invalidArgument (operation : String) (index : Nat) (reason : String)
  | rejected (interceptor operation reason : String)
  | invalidProperty (key value reason : String)
  | chainFull (limit : Nat)
deriving DecidableEq, Repr

/-- What is wrong with a setting. -/
inductive SettingsError where
  | missingRequired (field : String)
  | invalidValue (field value reason : String)
deriving DecidableEq, Repr

inductive Error where
  | mapping (cause : MappingError)
  | interception (cause : InterceptionError)
  | settings (cause : SettingsError)
deriving DecidableEq, Repr

/-- A named case with its fields in order; a case without fields is its bare name. -/
def outlineCase (name : String) (fields : List (String × String)) : String :=
  if fields.isEmpty then name
  else
    let shown := fields.map fun (field, value) => field ++ ": " ++ value
    name ++ " \x7b " ++ ", ".intercalate shown ++ " \x7d"

namespace MappingError

def name : MappingError → String
  | missingDescriptorId => "MissingDescriptorId"
  | conflictingNestedReferences _ => "ConflictingNestedReferences"
  | missingColumn _ => "MissingColumn"
  | foreignColumnMismatch _ _ _ => "ForeignColumnMismatch"
  | duplicateDescriptor _ => "DuplicateDescriptor"
  | descriptorNotFound _ => "DescriptorNotFound"

def message : MappingError → String
  | missingDescriptorId => "Result descriptors must have an id"
  | conflictingNestedReferences property =>
    "Cannot define both a nested query and a nested result map on property " ++ property
  | missingColumn property => "Mapping is missing a column for property " ++ property
  | foreignColumnMismatch property columns foreignColumns =>
    "Foreign columns (" ++ foreignColumns ++ ") do not match columns (" ++ columns
      ++ ") for property " ++ property
  | duplicateDescriptor id => "Result descriptor already registered: " ++ id
  | descriptorNotFound id => "Result descriptor not found: " ++ id

def fields : MappingError → List (String × String)
  | missingDescriptorId => []
  | conflictingNestedReferences property => [("property", Text.quoted property)]
  | missingColumn property => [("property", Text.quoted property)]
  | foreignColumnMismatch property columns foreignColumns =>
    [("property", Text.quoted property), ("columns", Text.quoted columns),
      ("foreign_columns", Text.quoted foreignColumns)]
  | duplicateDescriptor id => [("id", Text.quoted id)]
  | descriptorNotFound id => [("id", Text.quoted id)]

def outline (e : MappingError) : String := outlineCase e.name e.fields

end MappingError

namespace InterceptionError

def name : InterceptionError → String
  | operationFailed _ _ _ => "OperationFailed"
  | unknownOperation _ _ => "UnknownOperation"
  | invalidArgument _ _ _ => "InvalidArgument"
  | rejected _ _ _ => "Rejected"
  | invalidProperty _ _ _ => "InvalidProperty"
  | chainFull _ => "ChainFull"

def message : InterceptionError → String
  | operationFailed target operation reason =>
    "Operation " ++ operation ++ " on " ++ target ++ " failed: " ++ reason
  | unknownOperation target operation => "Unknown operation " ++ operation ++ " on " ++ target
  | invalidArgument operation index reason =>
    "Invalid argument " ++ toString index ++ " for " ++ operation ++ ": " ++ reason
  | rejected interceptor operation reason =>
    "Interceptor " ++ interceptor ++ " rejected " ++ operation ++ ": " ++ reason
  | invalidProperty key value reason =>
    "Invalid value for property " ++ key ++ ": " ++ value ++ " - " ++ reason
  | chainFull limit => "Interceptor chain is full: limit is " ++ toString limit

def fields : InterceptionError → List (String × String)
  | operationFailed target operation reason =>
    [("target", Text.quoted target), ("operation", Text.quoted operation),
      ("reason", Text.quoted reason)]
  | unknownOperation target operation =>
    [("target", Text.quoted target), ("operation", Text.quoted operation)]
  | invalidArgument operation index reason =>
    [("operation", Text.quoted operation), ("index", toString index),
      ("reason", Text.quoted reason)]
  | rejected interceptor operation reason =>
    [("interceptor", Text.quoted interceptor), ("operation", Text.quoted operation),
      ("reason", Text.quoted reason)]
  | invalidProperty key value reason =>
    [("key", Text.quoted key), ("value", Text.quoted value), ("reason", Text.quoted reason)]
  | chainFull limit => [("limit", toString limit)]

def outline (e : InterceptionError) : String := outlineCase e.name e.fields

end InterceptionError

namespace SettingsError

def name : SettingsError → String
  | missingRequired _ => "MissingRequired"
  | invalidValue _ _ _ => "InvalidValue"

def message : SettingsError → String
  | missingRequired field => "Missing required configuration field: " ++ field
  | invalidValue field value reason =>
    "Invalid value for " ++ field ++ ": " ++ value ++ " - " ++ reason

def fields : SettingsError → List (String × String)
  | missingRequired field => [("field", Text.quoted field)]
  | invalidValue field value reason =>
    [("field", Text.quoted field), ("value", Text.quoted value), ("reason", Text.quoted reason)]

def outline (e : SettingsError) : String := outlineCase e.name e.fields

end SettingsError

namespace Error

/-- The family of an error. -/
def family : Error → String
  | mapping _ => "Mapping"
  | interception _ => "Plugin"
  | settings _ => "Config"

/-- The name of the cause within its family. -/
def name : Error → String
  | mapping cause => cause.name
  | interception cause => cause.name
  | settings cause => cause.name

/-- The wording of the cause alone. -/
def causeMessage : Error → String
  | mapping cause => cause.message
  | interception cause => cause.message
  | settings cause => cause.message

def message (e : Error) : String := e.family ++ " error: " ++ e.causeMessage

/-- The cause alone as diagnostics show it. -/
def causeOutline : Error → String
  | mapping cause => cause.outline
  | interception cause => cause.outline
  | settings cause => cause.outline

def outline (e : Error) : String := e.family ++ "(" ++ e.causeOutline ++ ")"

end Error

end ResultMapping
