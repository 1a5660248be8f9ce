/-!
# Numerals

Reading an integer of a given range from decimal text: an optional sign, then digits and nothing
else. Digits are taken from left to right, and the first one that is no digit or that leaves the
range decides what is wrong with the text.
-/

namespace ResultMapping.Text

/-- The integers from `least` to `greatest`. -/
structure IntRange where
  least : Int
  greatest : Int
deriving DecidableEq, Repr

namespace IntRange

/-- The integers of so many bits without a sign. -/
def unsigned (bits : Nat) : IntRange := ⟨0, (Nat.pow 2 bits : Int) - 1⟩

/-- The integers of so many bits, one of them the sign. -/
def signed (bits : Nat) : IntRange :=
  ⟨-(Nat.pow 2 (bits - 1) : Int), (Nat.pow 2 (bits - 1) : Int) - 1⟩

/-- Whether the range has negative members, so that a text may start with a minus. -/
def hasNegatives (range : IntRange) : Bool := range.least < 0

end IntRange

/-- Why a text is no numeral of a range. -/
inductive NumeralFault where
  | empty
  | invalidDigit
  | tooLarge
  | tooSmall
deriving DecidableEq, Repr

namespace NumeralFault

def message : NumeralFault → String
  | .empty => "cannot parse integer from empty string"
  | .invalidDigit => "invalid digit found in string"
  | .tooLarge => "number too large to fit in target type"
  | .tooSmall => "number too small to fit in target type"

end NumeralFault

namespace Numeral

/-- The value of a decimal digit. -/
def digit? (c : Char) : Option Nat :=
  if '0' ≤ c ∧ c ≤ '9' then some (c.toNat - '0'.toNat) else none

/-- Appends the digits to a number that is not negative, up to the greatest of the range. -/
def ascend (greatest : Int) (value : Int) : List Char → Except NumeralFault Int
  | [] => .ok value
  | c :: rest =>
    match digit? c with
    | none => .error .invalidDigit
    | some d =>
      if 10 * value + d ≤ greatest then ascend greatest (10 * value + d) rest
      else .error .tooLarge

/-- Appends the digits to a number that is not positive, down to the least of the range. -/
def descend (least : Int) (value : Int) : List Char → Except NumeralFault Int
  | [] => .ok value
  | c :: rest =>
    match digit? c with
    | none => .error .invalidDigit
    | some d =>
      if least ≤ 10 * value - d then descend least (10 * value - d) rest
      else .error .tooSmall

def readChars (range : IntRange) : List Char → Except NumeralFault Int
  | [] => .error .empty
  | c :: rest =>
    if c = '+' then
      if rest.isEmpty then .error .invalidDigit else ascend range.greatest 0 rest
    else if c = '-' then
      if rest.isEmpty || !range.hasNegatives then .error .invalidDigit
      else descend range.least 0 rest
    else ascend range.greatest 0 (c :: rest)

/-- The integer of the range that the text denotes. -/
def read (range : IntRange) (text : String) : Except NumeralFault Int :=
  readChars range text.toList

end Numeral

end ResultMapping.Text
