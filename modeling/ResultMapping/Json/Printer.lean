import ResultMapping.Json.Basic
import ResultMapping.Real.Shortest
import ResultMapping.Text.Quoted

/-!
# Writing JSON

`Json.compact` is the text of a value without any space between its parts; characters beyond ASCII
stand for themselves. `Json.outline` is the form in which diagnostics show a value, every part
under the name of its kind.
-/

namespace ResultMapping.Json

/-- How one character stands in a JSON string. -/
def escapeChar (c : Char) : List Char :=
  if c = '"' then ['\\', '"']
  else if c = '\\' then ['\\', '\\']
  else if c = '\n' then ['\\', 'n']
  else if c = '\r' then ['\\', 'r']
  else if c = '\t' then ['\\', 't']
  else if c = '\x08' then ['\\', 'b']
  else if c = '\x0c' then ['\\', 'f']
  else if c.toNat < 0x20 then
    ['\\', 'u', '0', '0', Nat.digitChar (c.toNat / 16), Nat.digitChar (c.toNat % 16)]
  else [c]

def escape (text : String) : String :=
  .ofList ('"' :: text.toList.flatMap escapeChar ++ ['"'])

mutual

def compact : Json → String
  | null => "null"
  | bool true => "true"
  | bool false => "false"
  | integer value => toString value
  | real value => value.render
  | string value => escape value
  | array items => "[" ++ ",".intercalate (compactItems items) ++ "]"
  | object members => "\x7b" ++ ",".intercalate (compactMembers members) ++ "\x7d"

def compactItems : List Json → List String
  | [] => []
  | item :: rest => compact item :: compactItems rest

def compactMembers : List (String × Json) → List String
  | [] => []
  | (name, value) :: rest => (escape name ++ ":" ++ compact value) :: compactMembers rest

end

mutual

def outline : Json → String
  | null => "Null"
  | bool true => "Bool(true)"
  | bool false => "Bool(false)"
  | integer value => "Number(" ++ toString value ++ ")"
  | real value => "Number(" ++ value.render ++ ")"
  | string value => "String(" ++ Text.quoted value ++ ")"
  | array items => "Array [" ++ ", ".intercalate (outlineItems items) ++ "]"
  | object members => "Object \x7b" ++ ", ".intercalate (outlineMembers members) ++ "\x7d"

def outlineItems : List Json → List String
  | [] => []
  | item :: rest => outline item :: outlineItems rest

def outlineMembers : List (String × Json) → List String
  | [] => []
  | (name, value) :: rest => (Text.quoted name ++ ": " ++ outline value) :: outlineMembers rest

end

end ResultMapping.Json
