import ResultMapping.Interception.Chain

/-!
# Recording interceptors

An interceptor that writes to the log of calls before and after each call, and does one of four
things in between.
-/

namespace ResultMapping

namespace Recording

inductive Behavior where
  /-- Proceeds and passes the outcome on. -/
  | proceed
  /-- Answers with a value and does not proceed. -/
  | shortCircuit (value : Json)
  /-- Proceeds and puts a value under the interceptor's name. -/
  | wrapResult
  /-- Proceeds and answers a failure with a value. -/
  | recover (value : Json)

end Recording

structure Recording where
  name : String
  behavior : Recording.Behavior
  signature : Signature

namespace Recording

variable {σ : Type}

/-- What comes between the two lines in the log. -/
def answer (r : Recording) (call : Call σ) : Effect σ Outcome :=
  match r.behavior with
  | .proceed => call.proceed
  | .shortCircuit value => pure (.ok value)
  | .wrapResult => do
    match ← call.proceed with
    | .ok value => pure (.ok (.object [(r.name, value)]))
    | .error e => pure (.error e)
  | .recover value => do
    match ← call.proceed with
    | .ok value => pure (.ok value)
    | .error e =>
      emit (.failureRecovered r.name e)
      pure (.ok value)

def intercept (r : Recording) (call : Call σ) : Effect σ Outcome := do
  record (r.name ++ ":before")
  let outcome ← r.answer call
  record (r.name ++ ":after")
  pure outcome

def interceptor (r : Recording) : Interceptor σ where
  name := r.name
  signature := r.signature
  intercept := r.intercept

/-- The property `name` renames the interceptor. -/
def setProperties (r : Recording) (p : Properties) : Recording :=
  { r with name := p.getOr "name" r.name }

end Recording

end ResultMapping
