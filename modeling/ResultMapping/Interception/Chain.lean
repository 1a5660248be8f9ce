import ResultMapping.Interception.Properties
import ResultMapping.Interception.Target

/-!
# Chains of interceptors

Interceptors in the order of their registration, up to a limit. Each wraps what those before it
made of a target, so the one registered last sees a call first and its outcome last.
-/

namespace ResultMapping

structure Chain (σ : Type) where
  interceptors : List (Interceptor σ)
  limit : Nat

namespace Chain

variable {σ : Type}

/-- The empty chain with the limit of the settings. -/
def ofSettings (s : Settings) : Chain σ := ⟨[], s.maxInterceptors.toNat⟩

instance : Inhabited (Chain σ) := ⟨ofSettings {}⟩

def size (c : Chain σ) : Nat := c.interceptors.length

def isEmpty (c : Chain σ) : Bool := c.interceptors.isEmpty

/-- Registers an interceptor, unless the chain is full. -/
def add (c : Chain σ) (i : Interceptor σ) : Except InterceptionError (Chain σ × List Event) :=
  if c.limit ≤ c.size then .error (.chainFull c.limit)
  else .ok ({ c with interceptors := c.interceptors ++ [i] },
    [.interceptorRegistered i.name c.size])

/-- Configures an interceptor and registers it. -/
def addConfigured (c : Chain σ) (configure : Properties → Except Error (Interceptor σ))
    (p : Properties) : Except Error (Chain σ × List Event) :=
  match configure p with
  | .error e => .error e
  | .ok i =>
    match c.add i with
    | .ok result => .ok result
    | .error e => .error (.interception e)

/-- Offers a target to one interceptor after the other. -/
def wrapAll (c : Chain σ) (target : Target σ) : Effect σ (Target σ) :=
  c.interceptors.foldlM (fun target i => i.accept target) target

/-- The chain as diagnostics show it. -/
def outline (c : Chain σ) : String :=
  let names := c.interceptors.map fun i => Text.quoted i.name
  outlineCase "InterceptorChain" [
    ("interceptors", "[" ++ ", ".intercalate names ++ "]"),
    ("max_interceptors", toString c.limit)]

end Chain

end ResultMapping
