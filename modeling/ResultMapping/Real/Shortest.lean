import ResultMapping.Real.Binary64

/-!
# The shortest decimal text of a number

The fewest digits that read back as the number, of those the nearest to it; positional notation
for points within 16 digits and a few leading zeros, and a power of ten beyond.
-/

namespace ResultMapping.Binary64

/-- The reals that round to a number, as multiples of `2 ^ (exponent - 2)`: the number itself is
`4 · mantissa` of them, and the ends belong to it if `closed`. -/
structure Neighbourhood where
  low : Nat
  centre : Nat
  high : Nat
  closed : Bool
  exponent : Int

def neighbourhood (x : Binary64) : Neighbourhood where
  low := if x.mantissa = leastNormal ∧ x.exponent > leastExponent then 4 * x.mantissa - 1
    else 4 * x.mantissa - 2
  centre := 4 * x.mantissa
  high := 4 * x.mantissa + 2
  closed := x.mantissa % 2 == 0
  exponent := x.exponent - 2

/-- Decimal digits as a number, scaled by a power of ten. -/
structure Digits where
  value : Nat
  exponent : Int
deriving DecidableEq, Repr

/-- The quotient `2 ^ binary / 10 ^ decimal`. -/
def powerQuotient (binary decimal : Int) : Nat × Nat :=
  (Nat.pow 10 (-decimal).toNat <<< binary.toNat, Nat.pow 10 decimal.toNat <<< (-binary).toNat)

/-- The multiple of `10 ^ exponent` in the neighbourhood that is nearest to its centre, of two
equally near ones the even. -/
def Neighbourhood.nearest? (n : Neighbourhood) (exponent : Int) : Option Nat :=
  let (num, den) := powerQuotient n.exponent exponent
  let inside (multiple : Nat) : Bool :=
    if n.closed then n.low * num ≤ multiple * den && multiple * den ≤ n.high * num
    else n.low * num < multiple * den && multiple * den < n.high * num
  let below := n.centre * num / den
  match inside below, inside (below + 1) with
  | true, true => some (roundQuotient (n.centre * num) den)
  | true, false => some below
  | false, true => some (below + 1)
  | false, false => none

/-- The first exponent from `exponent` downwards with a multiple in the neighbourhood. -/
def Neighbourhood.digits (n : Neighbourhood) : Nat → Int → Digits
  | 0, exponent => ⟨0, exponent⟩
  | steps + 1, exponent =>
    match n.nearest? exponent with
    | some value => if value = 0 then n.digits steps (exponent - 1) else ⟨value, exponent⟩
    | none => n.digits steps (exponent - 1)

/-- The fewest digits that read back as a number other than zero. -/
def shortest (x : Binary64) : Digits := x.neighbourhood.digits 640 309

/-- Digits with a point: positional where the point falls within 16 digits or at most five places
before them, and with a signed exponent elsewhere. -/
def Digits.layout (digits : Digits) : String :=
  let text := toString digits.value
  let point := (text.length : Int) + digits.exponent
  if 0 ≤ digits.exponent ∧ point ≤ 16 then
    text ++ .ofList (List.replicate digits.exponent.natAbs '0') ++ ".0"
  else if 0 < point ∧ point ≤ 16 then
    .ofList (text.toList.take point.natAbs) ++ "." ++ .ofList (text.toList.drop point.natAbs)
  else if -5 < point ∧ point ≤ 0 then
    "0." ++ .ofList (List.replicate point.natAbs '0') ++ text
  else
    let fraction := String.ofList (text.toList.drop 1)
    let fraction := if fraction.isEmpty then "" else "." ++ fraction
    let mark := if 0 < point then "e+" else "e"
    .ofList (text.toList.take 1) ++ fraction ++ mark ++ toString (point - 1)

/-- The shortest text that reads back as the number. -/
def render (x : Binary64) : String :=
  let size := if x.mantissa = 0 then "0.0" else x.shortest.layout
  if x.negative then "-" ++ size else size

end ResultMapping.Binary64
