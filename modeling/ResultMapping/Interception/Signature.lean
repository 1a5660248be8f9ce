import ResultMapping.Interception.Component
import ResultMapping.Text.Quoted

/-!
# Signatures

A signature says which calls an interceptor is for: those listed in a manifest, which has a set of
operations for each target type, or those that satisfy a predicate.
-/

namespace ResultMapping

inductive Signature where
  /-- The operations listed under each target type, which may be none. -/
  | manifest (operations : Dictionary NameSet)
  /-- The pairs of target type and operation that satisfy a predicate. -/
  | predicate (holds : String → String → Bool)

namespace Signature

/-- The empty manifest, which covers nothing. -/
def empty : Signature := manifest ∅

instance : Inhabited Signature := ⟨empty⟩

def always : Signature := predicate fun _ _ => true

def never : Signature := predicate fun _ _ => false

/-- All calls on targets of a type. -/
def onType (type : String) : Signature := predicate fun t _ => t == type

/-- All calls of operations whose names start with a text. -/
def operationsStarting (start : String) : Signature :=
  predicate fun _ operation => start.toList.isPrefixOf operation.toList

/-- Lists one more operation in a manifest; a predicate stays as it is. -/
def add (s : Signature) (type operation : String) : Signature :=
  match s with
  | manifest operations =>
    manifest (operations.insert type (((operations.get? type).getD ∅).insert operation ()))
  | predicate holds => predicate holds

/-- Lists an operation of an engine component. -/
def addComponent (s : Signature) (component : Component) (operation : String) : Signature :=
  s.add component.name operation

/-- Whether a call of the operation on a target of the type is covered. -/
def covers (s : Signature) (type operation : String) : Bool :=
  match s with
  | manifest operations => (operations.get? type).any (·.contains operation)
  | predicate holds => holds type operation

/-- Whether some operation on a target of the type may be covered. A predicate is not asked ahead
of a call. -/
def mayApplyTo (s : Signature) (type : String) : Bool :=
  match s with
  | manifest operations => operations.contains type
  | predicate _ => true

/-- The signature as diagnostics show it: the types of a manifest with their operations. -/
def outline : Signature → String
  | manifest operations =>
    let shown := operations.entries.map fun (type, names) =>
      Text.quoted type ++ ": \x7b" ++ ", ".intercalate (names.keys.map Text.quoted) ++ "\x7d"
    "Manifest(\x7b" ++ ", ".intercalate shown ++ "\x7d)"
  | predicate _ => "Predicate(..)"

end Signature

end ResultMapping
