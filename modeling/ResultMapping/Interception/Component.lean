import ResultMapping.Json.Decode

/-!
# Engine components

The parts of a mapping engine that calls can be intercepted on.
-/

namespace ResultMapping

inductive Component where
  /-- Runs statements. -/
  | executor
  /-- Prepares statements. -/
  | statementHandler
  /-- Binds parameters to statements. -/
  | parameterHandler
  /-- Turns result sets into objects. -/
  | resultSetHandler
deriving DecidableEq, Repr

namespace Component

def all : List Component := [executor, statementHandler, parameterHandler, resultSetHandler]

/-- The target type under which the component is known. -/
def name : Component → String
  | executor => "Executor"
  | statementHandler => "StatementHandler"
  | parameterHandler => "ParameterHandler"
  | resultSetHandler => "ResultSetHandler"

/-- All components under their names. -/
def choices : List (String × Component) := all.map fun component => (component.name, component)

def named? (name : String) : Option Component := choices.lookup name

def toJson (component : Component) : Json := .string component.name

def ofJson : Json.Decoder Component := Json.toChoice choices

def ofText (text : String) : Except Refusal Component :=
  Json.decodeText .everything () ofJson text

end Component

end ResultMapping
