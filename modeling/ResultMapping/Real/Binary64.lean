/-!
# Finite numbers of binary64

The finite numbers of the 64-bit binary format, as a sign, a whole mantissa and a power of two,
and rounding to them. A quotient is rounded to the nearest number, and from the middle of two to
the one with the even mantissa.
-/

namespace ResultMapping

/-- The number `mantissa · 2 ^ exponent`, negated if `negative`; zero has a sign too. A mantissa
below `2 ^ 52` only stands with the least exponent, `-1074`. -/
structure Binary64 where
  negative : Bool
  mantissa : Nat
  exponent : Int
deriving DecidableEq, Repr

/-- The integer nearest to a quotient, an even one in the middle. -/
def roundQuotient (num den : Nat) : Nat :=
  let floor := num / den
  if 2 * (num % den) > den || 2 * (num % den) == den && floor % 2 == 1 then floor + 1 else floor

/-- A quotient of naturals scaled by a power of two, again as a quotient. -/
def scaleQuotient (num den : Nat) (exponent : Int) : Nat × Nat :=
  (num <<< exponent.toNat, den <<< (-exponent).toNat)

namespace Binary64

def leastExponent : Int := -1074

def greatestExponent : Int := 971

/-- The least mantissa that stands with every exponent, `2 ^ 52`; all mantissas are below its
double. -/
def leastNormal : Nat := 0x10000000000000

def zero (negative : Bool) : Binary64 := ⟨negative, 0, leastExponent⟩

/-- The number nearest to a quotient of naturals, unless that lies beyond the greatest number. -/
def ofQuotient? (negative : Bool) (num den : Nat) : Option Binary64 :=
  if num = 0 then some (zero negative)
  else
    let size : Int := (Nat.log2 num : Int) - Nat.log2 den
    let low := max (size - 53) leastExponent
    let (n, d) := scaleQuotient num den (-low)
    let exponent := if n / d < 2 * leastNormal then low else low + 1
    let (n, d) := scaleQuotient num den (-exponent)
    let mantissa := roundQuotient n d
    let (mantissa, exponent) :=
      if mantissa = 2 * leastNormal then (leastNormal, exponent + 1) else (mantissa, exponent)
    if exponent > greatestExponent then none else some ⟨negative, mantissa, exponent⟩

/-- The size of the number as a quotient of naturals. -/
def quotient (x : Binary64) : Nat × Nat := scaleQuotient x.mantissa 1 x.exponent

/-- The power of ten, rounded. -/
def powerOfTen? (n : Nat) : Option Binary64 := ofQuotient? false (Nat.pow 10 n) 1

/-- The product, rounded. -/
def mul? (x y : Binary64) : Option Binary64 :=
  let (a, b) := x.quotient
  let (c, d) := y.quotient
  ofQuotient? (x.negative != y.negative) (a * c) (b * d)

/-- The quotient of two numbers, the second of them not zero, rounded. -/
def div? (x y : Binary64) : Option Binary64 :=
  let (a, b) := x.quotient
  let (c, d) := y.quotient
  ofQuotient? (x.negative != y.negative) (a * d) (b * c)

/-- The greatest power of ten that is a number of the format. -/
def greatestPower : Nat := 308

/-- A significand scaled by a power of ten: the significand and the power are rounded first, and
their product or quotient once more. A number beyond the greatest power is refused unless it is
zero; one as far below the least vanishes. -/
def ofDecimal? (negative : Bool) (significand : Nat) (exponent : Int) : Option Binary64 := do
  let x ← ofQuotient? negative significand 1
  if significand = 0 then pure x
  else if 0 ≤ exponent then
    if exponent > greatestPower then none else x.mul? (← powerOfTen? exponent.natAbs)
  else if -greatestPower ≤ exponent then x.div? (← powerOfTen? exponent.natAbs)
  else if -(2 * greatestPower) ≤ exponent then
    (← x.div? (← powerOfTen? greatestPower)).div? (← powerOfTen? (exponent.natAbs - greatestPower))
  else pure (zero negative)

end Binary64

end ResultMapping
