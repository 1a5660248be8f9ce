import ResultMapping.Dictionary.Basic
import ResultMapping.Real.Binary64

/-!
# JSON values

A JSON value with the members of its objects in their order, repeats included. Integers and other
numbers are told apart: `1` is an integer, `1.0` and `-0` are not.
-/

namespace ResultMapping

inductive Json where
  | null
  | bool (value : Bool)
  | integer (value : Int)
  | real (value : Binary64)
  | string (value : String)
  | array (items : List Json)
  | object (members : List (String × Json))

namespace Json

instance : Inhabited Json := ⟨null⟩

mutual

/-- The value with the members of every object in increasing order of their names; of repeated
names the last member counts. -/
def canonical : Json → Json
  | null => null
  | bool value => bool value
  | integer value => integer value
  | real value => real value
  | string value => string value
  | array items => array (canonicalItems items)
  | object members => object (Dictionary.ofList (canonicalMembers members)).entries

def canonicalItems : List Json → List Json
  | [] => []
  | item :: rest => canonical item :: canonicalItems rest

def canonicalMembers : List (String × Json) → List (String × Json)
  | [] => []
  | (name, value) :: rest => (name, canonical value) :: canonicalMembers rest

end

/-- The value of an object's first member of the name. -/
def member? (name : String) : Json → Option Json
  | object members => members.lookup name
  | _ => none

def ofOption {α : Type} (f : α → Json) : Option α → Json
  | none => null
  | some a => f a

end Json

end ResultMapping
