import ResultMapping.Interception.Chain

/-!
# Probes

Interceptors for trying out a chain: each does one thing with a call and, except for `inspect`,
leaves nothing in the log.
-/

namespace ResultMapping

/-- An interceptor that does nothing but proceed. -/
def Interceptor.passive {σ : Type} (name : String) (signature : Signature) : Interceptor σ where
  name := name
  signature := signature
  intercept := Call.proceed

namespace Probe

inductive Behavior where
  | proceed
  /-- Refuses the call. -/
  | reject (reason : String)
  /-- Proceeds again after a failure, so many times at most. -/
  | retry (times : Nat)
  /-- Makes another call on the same target; what is not given stays as it was. -/
  | redirect (operation : Option String) (args : Option (List Json))
  /-- Writes the call to the log and proceeds. -/
  | inspect
  /-- Proceeds and appends the interceptor's name to an array. -/
  | tag
  /-- Refuses calls with more arguments than the property `limit` allows. -/
  | limit

end Probe

structure Probe where
  name : String
  behavior : Probe.Behavior
  signature : Signature
  wraps : Bool := true
  limit : Option Nat := none

namespace Probe

variable {σ : Type}

/-- Makes a call, and again after a failure, so many times at most. -/
def attempt (call : Effect σ Outcome) : Nat → Effect σ Outcome
  | 0 => call
  | times + 1 => do
    match ← call with
    | .ok value => pure (.ok value)
    | .error _ => attempt call times

def intercept (p : Probe) (call : Call σ) : Effect σ Outcome :=
  match p.behavior with
  | .proceed => call.proceed
  | .reject reason => pure (.error (.interception (.rejected p.name call.operation reason)))
  | .retry times => attempt call.proceed times
  | .redirect operation args =>
    Call.proceed ⟨call.target, operation.getD call.operation, args.getD call.args⟩
  | .inspect => do
    record call.outline
    call.proceed
  | .tag => do
    match ← call.proceed with
    | .ok (.array items) => pure (.ok (.array (items ++ [.string p.name])))
    | outcome => pure outcome
  | .limit =>
    match p.limit with
    | some limit =>
      if limit < call.args.length then
        pure (.error (.interception (.invalidArgument call.operation limit "too many")))
      else call.proceed
    | none => call.proceed

def interceptor (p : Probe) : Interceptor σ where
  name := p.name
  signature := p.signature
  intercept := p.intercept
  wraps := p.wraps

/-- The property `limit` sets the greatest number of arguments. -/
def setProperties (p : Probe) (properties : Properties) : Except Error Probe :=
  match properties.parsed (.integer (.unsigned 64)) "limit" with
  | .ok none => .ok p
  | .ok (some limit) => .ok { p with limit := some limit.toNat }
  | .error e => .error (.interception e)

end Probe

end ResultMapping
