import ResultMapping.Json.Basic

/-!
# Reading JSON

A reader that takes what it is asked for and passes over the rest. A part that is passed over has
to be well-formed and no more; a part that is taken must also have a value: whole surrogate pairs
in strings, numbers within range, containers not nested too deeply. On the first fault the reader
stops and closes what is open, so its result shows everything that stood before the fault.
-/

namespace ResultMapping.Json

/-- Which parts of a document are taken: where one stands after going to a member or an item, or
`none` if that part is passed over. -/
structure Selection (σ : Type) where
  member : σ → String → Option σ
  item : σ → Nat → Option σ

/-- Takes everything. -/
def Selection.everything : Selection Unit where
  member _ _ := some ()
  item _ _ := some ()

/-- What was found, and the text behind it unless reading stopped. -/
structure Scan (α : Type) where
  found : α
  rest : Option (List Char)

/-- How many containers may stand inside each other. -/
def greatestDepth : Nat := 127

def isBlank (c : Char) : Bool :=
  c == ' ' || c == '\n' || c == '\t' || c == '\r'

def skipBlanks (cs : List Char) : List Char := cs.dropWhile isBlank

/-! ## Strings -/

/-- A piece of a string: a character, or a UTF-16 unit given by its digits. -/
inductive Piece where
  | char (c : Char)
  | unit (code : Nat)
deriving DecidableEq

def hexDigit? (c : Char) : Option Nat :=
  if '0' ≤ c ∧ c ≤ '9' then some (c.toNat - '0'.toNat)
  else if 'a' ≤ c ∧ c ≤ 'f' then some (c.toNat - 'a'.toNat + 10)
  else if 'A' ≤ c ∧ c ≤ 'F' then some (c.toNat - 'A'.toNat + 10)
  else none

def unit? (a b c d : Char) : Option Piece := do
  pure (.unit ((((← hexDigit? a) * 16 + (← hexDigit? b)) * 16 + (← hexDigit? c)) * 16
    + (← hexDigit? d)))

/-- The character that a letter after a backslash stands for. -/
def shortEscape? (c : Char) : Option Char :=
  match c with
  | '"' => some '"'
  | '\\' => some '\\'
  | '/' => some '/'
  | 'b' => some '\x08'
  | 'f' => some '\x0c'
  | 'n' => some '\n'
  | 'r' => some '\r'
  | 't' => some '\t'
  | _ => none

/-- The pieces up to the closing quote, and the text behind it. -/
def scanPieces : List Char → Option (List Piece × List Char)
  | [] => none
  | '"' :: rest => some ([], rest)
  | '\\' :: 'u' :: a :: b :: c :: d :: rest => do
    let piece ← unit? a b c d
    let (pieces, rest) ← scanPieces rest
    pure (piece :: pieces, rest)
  | '\\' :: e :: rest => do
    let c ← shortEscape? e
    let (pieces, rest) ← scanPieces rest
    pure (.char c :: pieces, rest)
  | c :: rest =>
    if c = '\\' ∨ c.toNat < 0x20 then none
    else do
      let (pieces, rest) ← scanPieces rest
      pure (.char c :: pieces, rest)

/-- Joins the pieces; half of a surrogate pair by itself is no text. -/
def joinPieces : List Piece → Option (List Char)
  | [] => some []
  | .char c :: rest => do pure (c :: (← joinPieces rest))
  | .unit high :: .unit low :: rest =>
    if 0xD800 ≤ high ∧ high < 0xDC00 then
      if 0xDC00 ≤ low ∧ low < 0xE000 then do
        pure (.ofNat (0x10000 + (high - 0xD800) * 0x400 + (low - 0xDC00)) :: (← joinPieces rest))
      else none
    else if 0xDC00 ≤ high ∧ high < 0xE000 then none
    else do pure (.ofNat high :: (← joinPieces (.unit low :: rest)))
  | .unit code :: rest =>
    if 0xD800 ≤ code ∧ code < 0xE000 then none
    else do pure (.ofNat code :: (← joinPieces rest))

/-! ## Numbers -/

/-- The parts of a number: its sign, the digits before and after the point, and its exponent; the
last two are absent from an integer. -/
structure Number where
  negative : Bool
  whole : List Char
  fraction : Option (List Char)
  exponent : Option Int

def isDigit (c : Char) : Bool := '0' ≤ c && c ≤ '9'

def digitsValue (start : Nat) (digits : List Char) : Nat :=
  digits.foldl (fun n c => 10 * n + (c.toNat - '0'.toNat)) start

def scanFraction : List Char → Option (Option (List Char) × List Char)
  | '.' :: rest =>
    let digits := rest.takeWhile isDigit
    if digits.isEmpty then none else some (some digits, rest.dropWhile isDigit)
  | cs => some (none, cs)

def scanExponent : List Char → Option (Option Int × List Char)
  | c :: rest =>
    if c = 'e' ∨ c = 'E' then
      let (negative, rest) := match rest with
        | '+' :: rest => (false, rest)
        | '-' :: rest => (true, rest)
        | rest => (false, rest)
      let digits := rest.takeWhile isDigit
      if digits.isEmpty then none
      else
        let size : Int := digitsValue 0 digits
        some (some (if negative then -size else size), rest.dropWhile isDigit)
    else some (none, c :: rest)
  | [] => some (none, [])

/-- The number at the start of the text; it has no needless zero in front. -/
def scanNumber (cs : List Char) : Option (Number × List Char) := do
  let (negative, cs) := match cs with
    | '-' :: rest => (true, rest)
    | cs => (false, cs)
  let whole := cs.takeWhile isDigit
  guard (!whole.isEmpty && (whole.head? != some '0' || whole.length == 1))
  let (fraction, cs) ← scanFraction (cs.dropWhile isDigit)
  let (exponent, cs) ← scanExponent cs
  pure (⟨negative, whole, fraction, exponent⟩, cs)

/-- Appends digits to a significand as long as it stays below `2 ^ 64`; the digits from the first
one that does not fit are left over. -/
def absorbDigits (significand : Nat) : List Char → Nat × List Char
  | [] => (significand, [])
  | c :: rest =>
    let next := digitsValue significand [c]
    if next < UInt64.size then absorbDigits next rest else (significand, c :: rest)

/-- The greatest number whose negation is an integer of 64 bits, `2 ^ 63`. -/
def greatestNegation : Nat := 0x8000000000000000

/-- The number as a value. Whole numbers of 64 bits, with or without a sign, are integers; the sign
of zero makes it a real. -/
def Number.value? (n : Number) : Option Json :=
  let size := digitsValue 0 n.whole
  let integral := n.fraction.isNone && n.exponent.isNone
  if integral ∧ !n.negative ∧ size < UInt64.size then some (integer size)
  else if integral ∧ n.negative ∧ size ≠ 0 ∧ size ≤ greatestNegation then some (integer (-size))
  else
    let fraction := n.fraction.getD []
    let (significand, left) := absorbDigits 0 n.whole
    let (significand, leftOfFraction) := absorbDigits significand fraction
    let places : Int := left.length - (fraction.length - leftOfFraction.length)
    (Binary64.ofDecimal? n.negative significand (places + n.exponent.getD 0)).map real

/-! ## Values -/

def literal? (cs : List Char) : Option (Json × List Char) :=
  match cs with
  | 'n' :: 'u' :: 'l' :: 'l' :: rest => some (null, rest)
  | 't' :: 'r' :: 'u' :: 'e' :: rest => some (bool true, rest)
  | 'f' :: 'a' :: 'l' :: 's' :: 'e' :: rest => some (bool false, rest)
  | _ => none

/-- A value without parts. One that is passed over counts as `null`. -/
def scalar? (taken : Bool) (cs : List Char) : Option (Json × List Char) :=
  match cs with
  | '"' :: cs => do
    let (pieces, rest) ← scanPieces cs
    if taken then pure (string (.ofList (← joinPieces pieces)), rest) else pure (null, rest)
  | c :: _ =>
    if c = '-' ∨ isDigit c then do
      let (number, rest) ← scanNumber cs
      if taken then pure (← number.value?, rest) else pure (null, rest)
    else literal? cs
  | [] => none

/-- The name of a member and the text behind its colon. -/
def scanName (taken : Bool) (cs : List Char) : Option (String × List Char) :=
  match skipBlanks cs with
  | '"' :: cs => do
    let (pieces, rest) ← scanPieces cs
    let name ← if taken then joinPieces pieces else some []
    match skipBlanks rest with
    | ':' :: rest => some (.ofList name, rest)
    | _ => none
  | _ => none

variable {σ : Type}

mutual

/-- The value at the start of the text, at a place of the selection and inside so many containers;
without a place it is passed over. -/
def scanValue (select : Selection σ) :
    Nat → Option σ → Nat → List Char → Scan (Option Json)
  | 0, _, _, _ => ⟨none, none⟩
  | fuel + 1, place, depth, cs =>
    match skipBlanks cs with
    | '[' :: cs =>
      if place.isSome && greatestDepth ≤ depth then ⟨none, none⟩
      else
        let items : Scan (List Json) := match skipBlanks cs with
          | ']' :: rest => ⟨[], some rest⟩
          | cs => scanItems select fuel place (depth + 1) 0 cs
        ⟨some (array items.found), items.rest⟩
    | '\x7b' :: cs =>
      if place.isSome && greatestDepth ≤ depth then ⟨none, none⟩
      else
        let members : Scan (List (String × Json)) := match skipBlanks cs with
          | '\x7d' :: rest => ⟨[], some rest⟩
          | cs => scanMembers select fuel place (depth + 1) cs
        ⟨some (object members.found), members.rest⟩
    | cs =>
      match scalar? place.isSome cs with
      | some (value, rest) => ⟨some value, some rest⟩
      | none => ⟨none, none⟩

/-- The items of an array from the given position on, at least one. -/
def scanItems (select : Selection σ) :
    Nat → Option σ → Nat → Nat → List Char → Scan (List Json)
  | 0, _, _, _, _ => ⟨[], none⟩
  | fuel + 1, place, depth, position, cs =>
    let item := scanValue select fuel (place.bind (select.item · position)) depth cs
    match item.rest.map skipBlanks with
    | some (']' :: rest) => ⟨item.found.toList, some rest⟩
    | some (',' :: rest) =>
      let others := scanItems select fuel place depth (position + 1) rest
      ⟨item.found.toList ++ others.found, others.rest⟩
    | _ => ⟨item.found.toList, none⟩

/-- The members of an object, at least one; those that are passed over are left out. -/
def scanMembers (select : Selection σ) :
    Nat → Option σ → Nat → List Char → Scan (List (String × Json))
  | 0, _, _, _ => ⟨[], none⟩
  | fuel + 1, place, depth, cs =>
    match scanName place.isSome cs with
    | none => ⟨[], none⟩
    | some (name, cs) =>
      let inner := place.bind (select.member · name)
      let value := scanValue select fuel inner depth cs
      let found := if inner.isSome then value.found.toList.map (name, ·) else []
      match value.rest.map skipBlanks with
      | some ('\x7d' :: rest) => ⟨found, some rest⟩
      | some (',' :: rest) =>
        let others := scanMembers select fuel place depth rest
        ⟨found ++ others.found, others.rest⟩
      | _ => ⟨found, none⟩

end

/-- What a text holds: the value as far as it could be read, and whether the text was nothing but
that value. -/
structure Document where
  root : Option Json
  complete : Bool

/-- Reads a text, taking what the selection asks for from a starting place on. -/
def read (select : Selection σ) (start : σ) (text : String) : Document :=
  let cs := text.toList
  let value := scanValue select (2 * cs.length + 2) (some start) 0 cs
  ⟨value.found, (value.rest.map skipBlanks) == some []⟩

/-- The value that a text denotes as a whole, in canonical form. -/
def parse? (text : String) : Option Json :=
  let document := read .everything () text
  if document.complete then document.root.map canonical else none

end ResultMapping.Json
