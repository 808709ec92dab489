/-!
# Binary floating point

A finite 64-bit number is a sign, a significand below `2^53` and an exponent of two, so it is
computed with exactly and no machine arithmetic is involved.  The significand is at least `2^52`
unless the exponent is the least one, `-1074`; each number other than zero has thus one form.
`roundQuotient` is the one rounding rule: to the nearest number, a tie to the even significand.
-/

namespace ModelCodegen

/-- A finite number `± significand * 2 ^ exponent`. -/
structure Binary64 where
  negative : Bool
  significand : Nat
  exponent : Int
  deriving DecidableEq, Repr

namespace Binary64

/-- The least exponent. -/
def minExponent : Int := -1074

/-- The greatest exponent. -/
def maxExponent : Int := 971

/-- The least significand with all 53 binary digits. -/
def fullPrecision : Nat := Nat.pow 2 52

/-- The zero of a sign. -/
def zero (negative : Bool) : Binary64 := ⟨negative, 0, minExponent⟩

/-- The numerator and the denominator of `num / den / 2 ^ exponent`. -/
def scaleDown (num den : Nat) (exponent : Int) : Nat × Nat :=
  if 0 ≤ exponent then (num, den * Nat.pow 2 exponent.toNat)
  else (num * Nat.pow 2 (-exponent).toNat, den)

/-- The quotient rounded to the nearest natural number, a tie to the even one. -/
def roundHalfEven (num den : Nat) : Nat :=
  let quotient := num / den
  let twice := 2 * (num % den)
  if twice < den then quotient
  else if twice = den then quotient + quotient % 2
  else quotient + 1

/-- The exponent at which the quotient of two positive numbers has 53 binary digits, or the least
exponent if that one is greater. -/
def quotientExponent (num den : Nat) : Int :=
  let guess : Int := num.log2 - den.log2 - 52
  let (n, d) := scaleDown num den guess
  max minExponent (if n < fullPrecision * d then guess - 1 else guess)

/-- The number nearest to `± num / den`; there is none beyond the greatest number. -/
def roundQuotient (negative : Bool) (num den : Nat) : Option Binary64 :=
  if num = 0 then some (zero negative)
  else
    let exponent := quotientExponent num den
    let (n, d) := scaleDown num den exponent
    let rounded := roundHalfEven n d
    let (significand, exponent) :=
      if rounded = 2 * fullPrecision then (fullPrecision, exponent + 1) else (rounded, exponent)
    if exponent ≤ maxExponent then some ⟨negative, significand, exponent⟩ else none

/-- The number nearest to a natural number. -/
def ofNat (n : Nat) : Option Binary64 := roundQuotient false n 1

/-- The number nearest to `± digits * 10 ^ power`, correctly rounded. -/
def ofDecimal (negative : Bool) (digits : Nat) (power : Int) : Option Binary64 :=
  if digits = 0 then some (zero negative)
  else if power > 400 then none
  else if power < -(1200 + (digits.log2 : Int)) then some (zero negative)
  else if 0 ≤ power then roundQuotient negative (digits * Nat.pow 10 power.toNat) 1
  else roundQuotient negative digits (Nat.pow 10 (-power).toNat)

/-- The magnitude as a quotient of natural numbers. -/
def magnitude (x : Binary64) : Nat × Nat :=
  if 0 ≤ x.exponent then (x.significand * Nat.pow 2 x.exponent.toNat, 1)
  else (x.significand, Nat.pow 2 (-x.exponent).toNat)

/-- The rounded product, with the sign of the first factor. -/
def mul (x y : Binary64) : Option Binary64 :=
  let (xn, xd) := x.magnitude
  let (yn, yd) := y.magnitude
  roundQuotient x.negative (xn * yn) (xd * yd)

/-- The rounded quotient by a number other than zero, with the sign of the dividend. -/
def div (x y : Binary64) : Option Binary64 :=
  let (xn, xd) := x.magnitude
  let (yn, yd) := y.magnitude
  roundQuotient x.negative (xn * yd) (xd * yn)

/-- Neither zero nor below the range of full precision. -/
def isNormal (x : Binary64) : Bool := fullPrecision ≤ x.significand

def isZero (x : Binary64) : Bool := x.significand == 0

/-- Equality of values: the two zeros are equal. -/
def sameValue (x y : Binary64) : Bool := x == y || (x.isZero && y.isZero)

example : ofDecimal false 1 (-1) = some ⟨false, 7205759403792794, -56⟩ := by decide +kernel
example : ofDecimal false 5 (-324) = some ⟨false, 1, -1074⟩ := by decide +kernel
example : ofDecimal false 18 307 = none := by decide +kernel

end Binary64

end ModelCodegen
