import ResultMapping.Error
import ResultMapping.Json.Printer

/-!
# Log events

What the library reports about its own work, as values. An event has a level, a message and named
fields.
-/

namespace ResultMapping

/-- What a descriptor turned out to be when it was built. -/
structure BuildSummary where
  id : String
  targetType : String
  entries : Nat
  idEntries : Nat
  constructorEntries : Nat
  propertyEntries : Nat
  hasNestedResultMaps : Bool
  hasNestedQueries : Bool
deriving DecidableEq, Repr

inductive Event where
  /-- A descriptor was built. -/
  | descriptorBuilt (summary : BuildSummary)
  /-- A new descriptor is forced to be nested because one of its cases is. -/
  | forcedByCase (id : String)
  /-- A registered descriptor is forced to be nested because its case `case` was registered. -/
  | forcedByRegistration (id case : String)
  | descriptorRegistered (id : String) (hasNestedResultMaps : Bool)
  | interceptorRegistered (interceptor : String) (position : Nat)
  | targetWrapped (interceptor target : String)
  | callIntercepted (interceptor target operation : String)
  | failureRecovered (interceptor : String) (error : Error)
deriving DecidableEq, Repr

/-- How much an event matters. -/
inductive Level where
  | debug
  | trace
deriving DecidableEq, Repr

namespace Level

def name : Level → String
  | debug => "DEBUG"
  | trace => "TRACE"

end Level

namespace Event

def level : Event → Level
  | descriptorBuilt _ => .debug
  | forcedByCase _ => .trace
  | forcedByRegistration _ _ => .trace
  | descriptorRegistered _ _ => .debug
  | interceptorRegistered _ _ => .debug
  | targetWrapped _ _ => .trace
  | callIntercepted _ _ _ => .trace
  | failureRecovered _ _ => .debug

def message : Event → String
  | descriptorBuilt _ => "Built result descriptor"
  | forcedByCase _ => "Forcing nested result maps from discriminator case"
  | forcedByRegistration _ _ => "Forcing nested result maps on discriminating descriptor"
  | descriptorRegistered _ _ => "Registered result descriptor"
  | interceptorRegistered _ _ => "Registered interceptor"
  | targetWrapped _ _ => "Wrapping target"
  | callIntercepted _ _ _ => "Intercepting call"
  | failureRecovered _ _ => "Recovering from failure"

def fields : Event → List (String × Json)
  | descriptorBuilt s =>
    [("id", .string s.id), ("target_type", .string s.targetType), ("mappings", .integer s.entries),
      ("id_mappings", .integer s.idEntries),
      ("constructor_mappings", .integer s.constructorEntries),
      ("property_mappings", .integer s.propertyEntries),
      ("has_nested_result_maps", .bool s.hasNestedResultMaps),
      ("has_nested_queries", .bool s.hasNestedQueries)]
  | forcedByCase id => [("id", .string id)]
  | forcedByRegistration id case => [("id", .string id), ("case", .string case)]
  | descriptorRegistered id nested =>
    [("id", .string id), ("has_nested_result_maps", .bool nested)]
  | interceptorRegistered interceptor position =>
    [("interceptor", .string interceptor), ("position", .integer position)]
  | targetWrapped interceptor target =>
    [("interceptor", .string interceptor), ("target", .string target)]
  | callIntercepted interceptor target operation =>
    [("interceptor", .string interceptor), ("target", .string target),
      ("operation", .string operation)]
  | failureRecovered interceptor error =>
    [("interceptor", .string interceptor), ("error", .string error.message)]

def toJson (e : Event) : Json :=
  .object (("level", .string e.level.name) :: ("message", .string e.message) :: e.fields)

/-- Puts an event in front of a report. Registered descriptors that are forced by one registration
stand in the order of their ids as JSON texts. -/
def place (e : Event) : List Event → List Event
  | [] => [e]
  | f :: rest =>
    match e, f with
    | forcedByRegistration id _, forcedByRegistration id' _ =>
      if Json.escape id' < Json.escape id then f :: place e rest else e :: f :: rest
    | _, _ => e :: f :: rest

/-- The events as a report lists them. -/
def report (events : List Event) : List Event := events.foldr place []

end Event

end ResultMapping
