import ResultMapping.Settings

/-!
# Properties

The configuration of an interceptor: texts under keys, which can be read as values of other kinds.
-/

namespace ResultMapping

abbrev Properties := Dictionary String

/-- Reads a value from a text, or says why the text has none. -/
abbrev Reading (α : Type) := String → Except String α

namespace Reading

def integer (range : Text.IntRange) : Reading Int := fun text =>
  match Text.Numeral.read range text with
  | .ok value => .ok value
  | .error fault => .error fault.message

def boolean : Reading Bool := fun text =>
  if text = "true" then .ok true
  else if text = "false" then .ok false
  else .error "provided string was not `true` or `false`"

def character : Reading Char := fun text =>
  match text.toList with
  | [] => .error "cannot parse char from empty string"
  | [c] => .ok c
  | _ => .error "too many characters in string"

def text : Reading String := .ok

def autoMapping : Reading AutoMapping := fun text =>
  match AutoMapping.parse text with
  | .ok choice => .ok choice
  | .error fault => .error fault.message

end Reading

namespace Properties

/-- The value under a key, or else the given one. -/
def getOr (p : Properties) (key default : String) : String := (p.get? key).getD default

/-- Reads the value under a key without the white space around it. A missing key has no value; a
text that cannot be read is refused as it stands. -/
def parsed {α : Type} (p : Properties) (read : Reading α) (key : String) :
    Except InterceptionError (Option α) :=
  match p.get? key with
  | none => .ok none
  | some raw =>
    match read (Text.trim raw) with
    | .ok value => .ok (some value)
    | .error reason => .error (.invalidProperty key raw reason)

def toJson (p : Properties) : Json := Json.ofDictionary p

def ofJson : Json.Decoder Properties := Json.toDictionary

def ofText (text : String) : Except Refusal Properties :=
  Json.decodeText .everything () ofJson text

end Properties

end ResultMapping
