import ResultMapping.Event
import ResultMapping.Interception.Signature

/-!
# Targets and interceptors

A target answers calls of named operations. An interceptor wraps a target in a proxy, which is a
target again: calls that the interceptor's signature covers go to the interceptor, together with
the means to proceed to the wrapped target, and all others go straight through.

Calls run in a state of their own (`σ`) and leave traces in a log of calls and among the events.
-/

namespace ResultMapping

/-- The state of a sequence of calls with what they have recorded so far. -/
structure Run (σ : Type) where
  state : σ
  /-- The log of calls, in order. -/
  calls : List String := []
  events : List Event := []

abbrev Effect (σ : Type) := StateM (Run σ)

/-- What a call comes to. -/
abbrev Outcome := Except Error Json

/-- Writes a line to the log of calls. -/
def record {σ : Type} (line : String) : Effect σ Unit :=
  modify fun run => { run with calls := run.calls ++ [line] }

def emit {σ : Type} (event : Event) : Effect σ Unit :=
  modify fun run => { run with events := run.events ++ [event] }

structure Target (σ : Type) where
  /-- The name by which signatures know the target. -/
  type : String
  /-- How many proxies stand around the target proper. -/
  layers : Nat := 0
  invoke : String → List Json → Effect σ Outcome

/-- A call on its way to a target. -/
structure Call (σ : Type) where
  target : Target σ
  operation : String
  args : List Json

namespace Call

variable {σ : Type}

/-- Makes the call; its outcome is passed on as it is. -/
def proceed (call : Call σ) : Effect σ Outcome := call.target.invoke call.operation call.args

/-- The call as diagnostics show it. -/
def outline (call : Call σ) : String :=
  outlineCase "Invocation" [
    ("target", Text.quoted call.target.type),
    ("operation", Text.quoted call.operation),
    ("args", "[" ++ ", ".intercalate (call.args.map (·.outline)) ++ "]")]

end Call

structure Interceptor (σ : Type) where
  name : String
  signature : Signature
  intercept : Call σ → Effect σ Outcome
  /-- Whether the interceptor wraps targets that a chain offers to it. -/
  wraps : Bool := true

namespace Interceptor

variable {σ : Type}

/-- The target behind the interceptor. -/
def proxy (i : Interceptor σ) (target : Target σ) : Target σ where
  type := target.type
  layers := target.layers + 1
  invoke operation args :=
    if i.signature.covers target.type operation then do
      emit (.callIntercepted i.name target.type operation)
      i.intercept ⟨target, operation, args⟩
    else target.invoke operation args

/-- Wraps a target, unless the signature rules out all its operations. -/
def wrap (i : Interceptor σ) (target : Target σ) : Effect σ (Target σ) :=
  if i.signature.mayApplyTo target.type then do
    emit (.targetWrapped i.name target.type)
    pure (i.proxy target)
  else pure target

/-- What the interceptor makes of a target that is offered to it. -/
def accept (i : Interceptor σ) (target : Target σ) : Effect σ (Target σ) :=
  if i.wraps then i.wrap target else pure target

end Interceptor

end ResultMapping
