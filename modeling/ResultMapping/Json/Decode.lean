import ResultMapping.Json.Reader

/-!
# From JSON to values

Readers of single values, of records with two required members, and of whole texts. A record is an
object or an array of its members in their order. Of an object, members of other names are passed
over, and a repeated member is refused before its value is looked at.
-/

namespace ResultMapping

/-- Why a JSON value is refused. -/
inductive Refusal where
  /-- The text is no JSON, or holds something else after its value. -/
  | malformed
  /-- A value of the wrong kind or out of range. -/
  | unexpected
  | repeated (member : String)
  | missing (member : String)
  /-- An array with more items than its record has members. -/
  | tooLong
  /-- Flags with bits that have no meaning. -/
  | unknownFlags (bits : Nat)
deriving DecidableEq, Repr

namespace Refusal

/-- The wording of a refusal that has one: unknown flags are named by two hexadecimal digits. -/
def message? : Refusal → Option String
  | unknownFlags bits =>
    let digits := Nat.toDigits 16 bits
    some ("invalid ResultFlags bits: 0x"
      ++ .ofList (List.replicate (2 - digits.length) '0' ++ digits))
  | _ => none

end Refusal

namespace Json

abbrev Decoder (α : Type) := Json → Except Refusal α

/-- Applies a reader to every item. -/
def decodeAll {α : Type} (decode : Decoder α) : List Json → Except Refusal (List α)
  | [] => .ok []
  | item :: rest => do
    let first ← decode item
    let others ← decodeAll decode rest
    pure (first :: others)

def toText : Decoder String
  | string value => .ok value
  | _ => .error .unexpected

/-- A text, or `null` for its absence. -/
def toOptionalText : Decoder (Option String)
  | null => .ok none
  | string value => .ok (some value)
  | _ => .error .unexpected

def toBool : Decoder Bool
  | bool value => .ok value
  | _ => .error .unexpected

/-- An integer that is not negative and below the bound. -/
def toNatBelow (bound : Nat) : Decoder Nat
  | integer value =>
    if 0 ≤ value ∧ value < bound then .ok value.toNat else .error .unexpected
  | _ => .error .unexpected

def toTexts : Decoder (List String)
  | array items => decodeAll toText items
  | _ => .error .unexpected

def toPairs : List (String × Json) → Except Refusal (List (String × String))
  | [] => .ok []
  | (name, value) :: rest => do
    let text ← toText value
    let others ← toPairs rest
    pure ((name, text) :: others)

/-- An object of texts; of repeated names the last member counts. -/
def toDictionary : Decoder (Dictionary String)
  | object members => do
    let pairs ← toPairs members
    pure (.ofList pairs)
  | _ => .error .unexpected

def ofDictionary (d : Dictionary String) : Json :=
  object (d.entries.map fun (name, value) => (name, string value))

/-- One of some named choices: its name, or an object with the name as only member and `null` as
its value. -/
def toChoice {α : Type} (choices : List (String × α)) : Decoder α
  | string name | object [(name, null)] =>
    match choices.lookup name with
    | some choice => .ok choice
    | none => .error .unexpected
  | _ => .error .unexpected

/-! ## Records of two members -/

section Record

variable {α β : Type} (first second : String) (decodeFirst : Decoder α) (decodeSecond : Decoder β)

/-- The members in the order in which they stand, after those that were already seen. -/
def toRecordMembers : Option α → Option β → List (String × Json) → Except Refusal (α × β)
  | some a, some b, [] => .ok (a, b)
  | none, _, [] => .error (.missing first)
  | _, none, [] => .error (.missing second)
  | a?, b?, (name, value) :: rest =>
    if name = first then
      if a?.isSome then .error (.repeated name)
      else do
        let a ← decodeFirst value
        toRecordMembers (some a) b? rest
    else if name = second then
      if b?.isSome then .error (.repeated name)
      else do
        let b ← decodeSecond value
        toRecordMembers a? (some b) rest
    else toRecordMembers a? b? rest

/-- A record of two required members. -/
def toRecord : Decoder (α × β)
  | object members => toRecordMembers first second decodeFirst decodeSecond none none members
  | array [] => .error (.missing first)
  | array [x] => do
    let _ ← decodeFirst x
    .error (.missing second)
  | array (x :: y :: rest) => do
    let a ← decodeFirst x
    let b ← decodeSecond y
    if rest.isEmpty then pure (a, b) else .error .tooLong
  | _ => .error .unexpected

end Record

/-! ## Whole texts -/

/-- Reads a value from a text, of which only what the selection asks for is taken. A fault that
stands before the end of a malformed text is reported in its place. -/
def decodeText {α σ : Type} (select : Selection σ) (start : σ) (decode : Decoder α)
    (text : String) : Except Refusal α :=
  let document := read select start text
  match document.root with
  | none => .error .malformed
  | some root => do
    let value ← decode root
    if document.complete then pure value else .error .malformed

end Json

end ResultMapping
